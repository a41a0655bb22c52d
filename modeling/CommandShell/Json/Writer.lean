import CommandShell.Decimal.Notation
import CommandShell.Json.Fault
import CommandShell.Text.Quoted

/-! JSON values as JSON text: without blanks, on one line, or with one entry a line. -/

namespace CommandShell.Json

/-- Where the entries of lists and objects are set. -/
inductive Layout
  | compact
  | line
  | indented
  deriving DecidableEq, Repr

namespace Writer

def names : Decimal.Names :=
  ⟨"NaN", "Infinity"⟩

/-- Only the quote, the backslash and the characters below the space are escaped. -/
def escape (c : Char) : List Char :=
  if c = '"' then ['\\', '"']
  else if c = '\\' then ['\\', '\\']
  else if c = '\n' then ['\\', 'n']
  else if c = '\r' then ['\\', 'r']
  else if c = '\t' then ['\\', 't']
  else if c = '\x0c' then ['\\', 'f']
  else if c = '\x08' then ['\\', 'b']
  else if c.toNat < 0x20 then '\\' :: 'u' :: Text.hex 4 c.toNat
  else [c]

def string (s : String) : List Char :=
  '"' :: s.toList.flatMap escape ++ ['"']

/-- The text before an entry at a depth. -/
def lead (layout : Layout) (depth : Nat) : List Char :=
  match layout with
  | .compact | .line => []
  | .indented => '\n' :: List.replicate (2 * depth) ' '

/-- The text between two entries at a depth. -/
def separator (layout : Layout) (depth : Nat) : List Char :=
  match layout with
  | .compact => [',']
  | .line => [',', ' ']
  | .indented => ',' :: lead .indented depth

/-- The text between the name of a field and its value. -/
def colon (layout : Layout) : List Char :=
  match layout with
  | .compact => [':']
  | .line | .indented => [':', ' ']

mutual

def value (layout : Layout) (depth : Nat) : Json → List Char
  | null => "null".toList
  | bool true => "true".toList
  | bool false => "false".toList
  | int n => (toString n).toList
  | float x => (Decimal.write names x).toList
  | str s => string s
  | arr [] => ['[', ']']
  | arr (v :: rest) =>
      '[' :: lead layout (depth + 1) ++ value layout (depth + 1) v
        ++ items layout (depth + 1) rest ++ lead layout depth ++ [']']
  | obj [] => ['\x7b', '\x7d']
  | obj ((k, v) :: rest) =>
      '\x7b' :: lead layout (depth + 1) ++ string k ++ colon layout ++ value layout (depth + 1) v
        ++ fields layout (depth + 1) rest ++ lead layout depth ++ ['\x7d']

def items (layout : Layout) (depth : Nat) : List Json → List Char
  | [] => []
  | v :: rest => separator layout depth ++ value layout depth v ++ items layout depth rest

def fields (layout : Layout) (depth : Nat) : List (String × Json) → List Char
  | [] => []
  | (k, v) :: rest =>
      separator layout depth ++ string k ++ colon layout ++ value layout depth v
        ++ fields layout depth rest

end

end Writer

/-- The text of a value, unless a number in it has too many digits. -/
def write (layout : Layout) (v : Json) : Except Fault String :=
  if v.isWritable then .ok (String.ofList (Writer.value layout 0 v)) else .error .unwritable

namespace Writer

def unit (n : Nat) : List Char :=
  '\\' :: 'u' :: Text.hex 4 n

/-- Code points from the delete character onwards are escaped, those of the further planes as a
pair of surrogates. -/
def asciiEscape (n : Nat) : List Char :=
  if n < 0x7F then [Char.ofNat n]
  else if n < 0x10000 then unit n
  else unit (0xD800 + (n - 0x10000) / 0x400) ++ unit (0xDC00 + (n - 0x10000) % 0x400)

end Writer

/-- The text of a value in ASCII alone. Other characters stand only inside strings. -/
def writeAscii (layout : Layout) (v : Json) : String :=
  String.ofList ((Text.codes (Writer.value layout 0 v)).flatMap Writer.asciiEscape)

end CommandShell.Json
