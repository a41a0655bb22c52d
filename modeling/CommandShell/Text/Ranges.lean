/-! Sets of characters given as sorted ranges of code points. -/

namespace CommandShell.Text

/-- Membership in a sorted list of inclusive ranges; the search stops at the first range past the
character. -/
def inRanges : List (Nat × Nat) → Nat → Bool
  | [], _ => false
  | (low, high) :: rest, n => if n < low then false else n ≤ high || inRanges rest n

end CommandShell.Text
