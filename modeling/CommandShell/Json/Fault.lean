import CommandShell.Json.Value
import CommandShell.Overflow
import CommandShell.Text.Code

/-! What is wrong with a text that is no JSON, and with a value that has no text. -/

namespace CommandShell.Json

inductive FaultKind
  | expectingValue
  | expectingName
  | expectingColon
  | expectingComma
  | extraData
  | unterminatedString
  | controlCharacter
  | badEscape
  | badUnicodeEscape
  | byteOrderMark
  deriving DecidableEq, Repr

def FaultKind.message : FaultKind → String
  | .expectingValue => "Expecting value"
  | .expectingName => "Expecting property name enclosed in double quotes"
  | .expectingColon => "Expecting ':' delimiter"
  | .expectingComma => "Expecting ',' delimiter"
  | .extraData => "Extra data"
  | .unterminatedString => "Unterminated string starting at"
  | .controlCharacter => "Invalid control character at"
  | .badEscape => "Invalid \\escape"
  | .badUnicodeEscape => "Invalid \\uXXXX escape"
  | .byteOrderMark => "Unexpected UTF-8 BOM (decode using utf-8-sig)"

/-- A fault of the text at a position, a whole number with too many digits to be read or to be
written, or too many lists and objects inside one another. -/
inductive Fault
  | malformed (kind : FaultKind) (line column position : Nat)
  | tooManyDigits (count : Nat)
  | unwritable
  | tooDeep (o : Overflow)
  deriving DecidableEq, Repr

def limitMessage : String :=
  s!"Exceeds the limit ({maxDigits} digits) for integer string conversion"

def advice : String :=
  "use sys.set_int_max_str_digits() to increase the limit"

def tooManyDigitsMessage (count : Nat) : String :=
  limitMessage ++ s!": value has {count} digits; " ++ advice

def Fault.message : Fault → String
  | .malformed kind line column position =>
      s!"{kind.message}: line {line} column {column} (char {position})"
  | .tooManyDigits count => tooManyDigitsMessage count
  | .unwritable => limitMessage ++ "; " ++ advice
  | .tooDeep o => o.message

/-- A fault behind some of the characters of a text, with its line and column. -/
def Fault.at (text : List Char) (kind : FaultKind) (count : Nat) : Fault :=
  let before := text.take count
  let line := (before.reverse.takeWhile (· ≠ '\n')).reverse
  .malformed kind (before.count '\n' + 1) (Text.size line + 1) (Text.size before)

end CommandShell.Json
