/-! Results that are made of other results. -/

namespace Except

variable {ε ε' α β : Type} {r : Except ε α} {g : α → β} {e : ε} {b : β}

theorem map_eq_error_iff : r.map g = .error e ↔ r = .error e := by
  cases r <;> simp [Except.map]

theorem map_eq_ok_iff : r.map g = .ok b ↔ ∃ a, r = .ok a ∧ g a = b := by
  cases r <;> simp [Except.map]

end Except
