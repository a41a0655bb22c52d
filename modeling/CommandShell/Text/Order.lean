import CommandShell.Text.Code

/-! Texts in the order of their code points. -/

namespace CommandShell.Text

/-- Whether code points come before others or are the same. -/
def areOrdered : List Nat → List Nat → Bool
  | [], _ => true
  | _ :: _, [] => false
  | m :: ms, n :: ns => m < n || (m = n && areOrdered ms ns)

def isOrdered (s t : String) : Bool :=
  areOrdered (codes s.toList) (codes t.toList)

def sortBy {α : Type} (key : α → String) (xs : List α) : List α :=
  xs.mergeSort fun a b => isOrdered (key a) (key b)

def sort (ss : List String) : List String :=
  sortBy id ss

end CommandShell.Text
