/-!
The stack of the host. Work climbs it level by level from its caller, and the first level for
which there is no room tells what was about to happen there. A climb lists, level by level, what
happens when the work first gets there; that is all that an overflow can show of it.
-/

namespace CommandShell

/-- What was about to happen when the stack was used up. -/
inductive Overflow
  | entry
  | call
  | comparison
  | kindTest
  | text
  | quotation
  | listReading
  | objectReading
  | objectWriting
  deriving DecidableEq, Repr

namespace Overflow

/-- How a message tells where the stack was used up. -/
def place : Overflow → String
  | entry => ""
  | call => " while calling a Python object"
  | comparison => " in comparison"
  | kindTest => " in __instancecheck__"
  | text => " while getting the str of an object"
  | quotation => " while getting the repr of an object"
  | listReading => " while decoding a JSON array from a unicode string"
  | objectReading => " while decoding a JSON object from a unicode string"
  | objectWriting => " while encoding a JSON object"

def message (o : Overflow) : String :=
  "maximum recursion depth exceeded" ++ o.place

end Overflow

/-- What some work does at each of the levels that it reaches. -/
abbrev Climb := List Overflow

namespace Climb

/-- Where a climb ends if there is too little room for it. -/
def overflow? (climb : Climb) (room : Nat) : Option Overflow :=
  climb[room]?

theorem overflow?_eq_none_iff {climb : Climb} {room : Nat} :
    climb.overflow? room = none ↔ climb.length ≤ room :=
  List.getElem?_eq_none_iff

/-- One climb and then another from the same level. -/
def andThen (first second : Climb) : Climb :=
  first ++ second.drop first.length

end Climb

/-- How many levels are left above a caller, where the stack is bounded. -/
abbrev Room := Option Nat

namespace Room

/-- The room that is left some levels further up. -/
def above (r : Room) (levels : Nat) : Room :=
  r.map (· - levels)

/-- Where a climb ends in some room, if there is too little of it. -/
def overflow? (r : Room) (climb : Climb) : Option Overflow :=
  r.bind climb.overflow?

@[simp] theorem above_none (levels : Nat) : above none levels = none :=
  rfl

@[simp] theorem overflow?_none (climb : Climb) : overflow? none climb = none :=
  rfl

@[simp] theorem overflow?_nil (r : Room) : r.overflow? [] = none := by
  cases r <;> rfl

/-- A climb begins on its first level and goes on above it. -/
theorem overflow?_cons (r : Room) (o : Overflow) (climb : Climb) :
    r.overflow? (o :: climb) = (r.overflow? [o]).or ((r.above 1).overflow? climb) := by
  cases r with
  | none => rfl
  | some levels => cases levels <;> simp [overflow?, above, Climb.overflow?]

/-- Where there is room for a climb there is room for any that is no longer. -/
theorem overflow?_of_le {r : Room} {climb climb' : Climb} (h : r.overflow? climb = none)
    (hl : climb'.length ≤ climb.length) : r.overflow? climb' = none := by
  cases r with
  | none => rfl
  | some levels =>
      have hle : climb.length ≤ levels := Climb.overflow?_eq_none_iff.mp h
      exact Climb.overflow?_eq_none_iff.mpr (Nat.le_trans hl hle)

/-- What there is room for further up there is room for here. -/
theorem overflow?_of_above {r : Room} {levels : Nat} {climb : Climb}
    (h : (r.above levels).overflow? climb = none) : r.overflow? climb = none := by
  cases r with
  | none => rfl
  | some room =>
      have hle : climb.length ≤ room - levels := Climb.overflow?_eq_none_iff.mp h
      exact Climb.overflow?_eq_none_iff.mpr (Nat.le_trans hle (Nat.sub_le room levels))

end Room

end CommandShell
