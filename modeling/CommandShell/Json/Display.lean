import CommandShell.Decimal.Notation
import CommandShell.Json.Fault
import CommandShell.Text.Quoted

/-! The text of a JSON value in output: a string stands for itself, and is quoted only inside a
list or an object. -/

namespace CommandShell.Json

def displayNames : Decimal.Names :=
  ⟨"nan", "inf"⟩

mutual

/-- The text of a value inside another. -/
def inner : Json → String
  | null => "None"
  | bool true => "True"
  | bool false => "False"
  | int n => toString n
  | float x => Decimal.write displayNames x
  | str s => Text.quoted s
  | arr items => "[" ++ String.intercalate ", " (innerItems items) ++ "]"
  | obj fields => "\x7b" ++ String.intercalate ", " (innerFields fields) ++ "\x7d"

def innerItems : List Json → List String
  | [] => []
  | v :: rest => inner v :: innerItems rest

def innerFields : List (String × Json) → List String
  | [] => []
  | (k, v) :: rest => (Text.quoted k ++ ": " ++ inner v) :: innerFields rest

end

/-- The text of a value, unless a number in it has too many digits. -/
def display : Json → Except Fault String
  | str s => .ok s
  | v => if v.isWritable then .ok (inner v) else .error .unwritable

/-- The texts of some values. -/
def displayAll : List Json → Except Fault (List String)
  | [] => .ok []
  | v :: rest =>
      match v.display with
      | .error f => .error f
      | .ok text => (displayAll rest).map (text :: ·)

/-- Some named values with their texts. -/
def displayEach : List (String × Json) → Except Fault (List (String × String))
  | [] => .ok []
  | (name, v) :: rest =>
      match v.display with
      | .error f => .error f
      | .ok text => (displayEach rest).map ((name, text) :: ·)

end CommandShell.Json
