import CommandShell.Decimal.Binary
import CommandShell.Decimal.Numeral
import CommandShell.Json.Fault
import CommandShell.Json.Value
import CommandShell.Text.Blank
import CommandShell.Text.Digit
import CommandShell.Text.Quoted

/-! Settings read as whole numbers: numbers are cut to their whole part, texts are read as digits,
and other values are refused. -/

namespace CommandShell

inductive NumberFault
  | notDigits (literal : String)
  | tooManyDigits (count : Nat)
  | notANumber
  | infinite
  | wrongKind (name : String)
  | beyondFloat
  deriving DecidableEq, Repr

def NumberFault.message : NumberFault → String
  | notDigits literal =>
      "invalid literal for int() with base 10: "
        ++ String.ofList ((Text.quoted literal).toList.take 200)
  | tooManyDigits count => Json.tooManyDigitsMessage count
  | notANumber => "cannot convert float NaN to integer"
  | infinite => "cannot convert float infinity to integer"
  | wrongKind name =>
      "int() argument must be a string, a bytes-like object or a real number, not '" ++ name ++ "'"
  | beyondFloat => "int too large to convert to float"

namespace Whole

/-- Blanks around a number; the ASCII separators are not among them. -/
def isSpace (c : Char) : Bool :=
  Text.isBlank c && !(0x1c ≤ c.toNat && c.toNat ≤ 0x1f)

/-- Single underscores may stand between digits. -/
def underscoresFit : List Char → Bool
  | [] => true
  | ['_'] => false
  | '_' :: '_' :: _ => false
  | _ :: rest => underscoresFit rest

def ofText (s : String) : Except NumberFault Int :=
  let (negative, cs) :=
    match s.toList.dropWhile isSpace with
    | '-' :: rest => (true, rest)
    | '+' :: rest => (false, rest)
    | cs => (false, cs)
  let body := cs.takeWhile fun c => Text.isDigit c || c = '_'
  let digits := body.filterMap Text.digit?
  if body.isEmpty ∨ body.head? = some '_' ∨ !underscoresFit body then .error (.notDigits s)
  else if digits.length > Json.maxDigits then .error (.tooManyDigits digits.length)
  else if (cs.drop body.length).all isSpace then
    .ok (Decimal.signed negative (Decimal.ofDigits digits))
  else .error (.notDigits s)

def ofFloat (x : Float) : Except NumberFault Int :=
  match Decimal.Binary.ofFloat x with
  | .nan => .error .notANumber
  | .infinite _ => .error .infinite
  | .finite negative m e => .ok (Decimal.signed negative (Decimal.wholePart m e))

end Whole

def Json.whole (v : Json) : Except NumberFault Int :=
  match v with
  | .bool b => .ok (if b then 1 else 0)
  | .int n => .ok n
  | .float x => Whole.ofFloat x
  | .str s => Whole.ofText s
  | v => .error (.wrongKind v.kindName)

end CommandShell
