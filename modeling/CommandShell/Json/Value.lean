import CommandShell.OrderedMap

/-!
JSON values. Whole numbers and floating-point numbers are kept apart, and an object keeps the
order of its fields.
-/

namespace CommandShell

inductive Json
  | null
  | bool (b : Bool)
  | int (n : Int)
  | float (x : Float)
  | str (s : String)
  | arr (items : List Json)
  | obj (fields : List (String × Json))
  deriving Inhabited

namespace Json

/-- The field of an object; `none` for every other value. -/
def field? : Json → String → Option Json
  | obj fields, k => fields.lookup k
  | _, _ => none

/-- Null, zero, false and whatever is empty count as absent. -/
def isTruthy : Json → Bool
  | null => false
  | bool b => b
  | int n => n != 0
  | float x => x != 0.0
  | str s => !s.isEmpty
  | arr items => !items.isEmpty
  | obj fields => !fields.isEmpty

/-- The name of a value's kind in messages. -/
def kindName : Json → String
  | null => "NoneType"
  | bool _ => "bool"
  | int _ => "int"
  | float _ => "float"
  | str _ => "str"
  | arr _ => "list"
  | obj _ => "dict"

def ofOption : Option String → Json
  | none => null
  | some s => str s

mutual

/-- How many lists and objects are inside one another at most. -/
def depth : Json → Nat
  | arr items => depthOfItems items + 1
  | obj fields => depthOfFields fields + 1
  | _ => 0

def depthOfItems : List Json → Nat
  | [] => 0
  | v :: rest => max (depth v) (depthOfItems rest)

def depthOfFields : List (String × Json) → Nat
  | [] => 0
  | (_, v) :: rest => max (depth v) (depthOfFields rest)

end

mutual

/-- How many values are inside one another below a value at most. -/
def height : Json → Nat
  | arr items => heightOfItems items
  | obj fields => heightOfFields fields
  | _ => 0

def heightOfItems : List Json → Nat
  | [] => 0
  | v :: rest => max (height v + 1) (heightOfItems rest)

def heightOfFields : List (String × Json) → Nat
  | [] => 0
  | (_, v) :: rest => max (height v + 1) (heightOfFields rest)

end

mutual

/-- How many levels the writing of a value with one entry a line takes: one for a list or an object
that is not empty, and one for a floating-point number. -/
def writingLevels : Json → Nat
  | float _ => 1
  | arr items => if items.isEmpty then 0 else writingLevelsOfItems items + 1
  | obj fields => if fields.isEmpty then 0 else writingLevelsOfFields fields + 1
  | _ => 0

def writingLevelsOfItems : List Json → Nat
  | [] => 0
  | v :: rest => max (writingLevels v) (writingLevelsOfItems rest)

def writingLevelsOfFields : List (String × Json) → Nat
  | [] => 0
  | (_, v) :: rest => max (writingLevels v) (writingLevelsOfFields rest)

end

/-- The largest number of digits of a whole number that is read from text or written out. -/
def maxDigits : Nat := 4300

/-- What in a value cannot be written. -/
inductive Unwritable
  | tooManyDigits
  | notFinite
  deriving DecidableEq, Repr

mutual

/-- The first number in a value that cannot be written; `finite` says whether those without a value
are among them. -/
def unwritable? (finite : Bool) : Json → Option Unwritable
  | int n =>
      if (Nat.toDigits 10 n.natAbs).length ≤ maxDigits then none else some .tooManyDigits
  | float x => if finite && !x.isFinite then some .notFinite else none
  | arr items => itemsUnwritable? finite items
  | obj fields => fieldsUnwritable? finite fields
  | _ => none

def itemsUnwritable? (finite : Bool) : List Json → Option Unwritable
  | [] => none
  | v :: rest => (unwritable? finite v).or (itemsUnwritable? finite rest)

def fieldsUnwritable? (finite : Bool) : List (String × Json) → Option Unwritable
  | [] => none
  | (_, v) :: rest => (unwritable? finite v).or (fieldsUnwritable? finite rest)

end

/-- Whether a value has a text. -/
def isWritable (v : Json) : Bool :=
  (v.unwritable? false).isNone

end Json

end CommandShell
