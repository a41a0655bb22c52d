import CommandShell.Command.Result
import CommandShell.Proofs.Except
import CommandShell.Proofs.OrderedMap
import Mathlib.Algebra.Group.Nat.Defs

/-! Which values have a text. Nothing but a whole number with too many digits is in the way. -/

namespace CommandShell

namespace Json

variable {v : Json} {f : Fault}

theorem isWritable_str (s : String) : (str s).isWritable = true :=
  rfl

theorem isWritable_int {n : Int} : (int n).isWritable = true ↔ n.natAbs < 10 ^ maxDigits := by
  rw [← Nat.length_toDigits_le_iff (by decide) (by decide), isWritable, unwritable?]
  split
  · simp [*]
  · simp [*]

/-- The least number that is too large. -/
theorem not_isWritable_power : (int ((10 ^ maxDigits : Nat) : Int)).isWritable = false := by
  rw [← Bool.not_eq_true, isWritable_int, Int.natAbs_natCast]
  exact Nat.lt_irrefl _

theorem display_of_isWritable (h : v.isWritable = true) : ∃ text, v.display = .ok text := by
  cases v with
  | str s => exact ⟨s, rfl⟩
  | _ => simp [display, h]

theorem display_eq_error : v.display = .error f ↔ v.isWritable = false ∧ f = .unwritable := by
  cases hw : v.isWritable with
  | true =>
      obtain ⟨text, ht⟩ := display_of_isWritable hw
      simp [ht]
  | false =>
      cases v with
      | str s => contradiction
      | _ => simp [display, hw, eq_comm]

theorem displayEach_eq_ok {es : List (String × Json)} {ts : List (String × String)} :
    displayEach es = .ok ts ↔
      List.Forall₂ (OrderedMap.Corresponds fun v text => v.display = .ok text) es ts := by
  induction es generalizing ts with
  | nil => cases ts <;> simp [displayEach]
  | cons e rest ih =>
      obtain ⟨name, v⟩ := e
      cases hd : v.display with
      | error f => cases ts <;> simp [displayEach, hd, OrderedMap.Corresponds]
      | ok text =>
          rw [displayEach]
          simp only [hd, Except.map_eq_ok_iff, ih]
          constructor
          · rintro ⟨ts, h, rfl⟩
            exact .cons ⟨rfl, hd⟩ h
          · rintro (_ | @⟨_, ⟨name', text'⟩, _, _, ⟨rfl, ht⟩, h⟩)
            cases hd.symm.trans ht
            exact ⟨_, h, rfl⟩

theorem displayEach_eq_error {es : List (String × Json)} :
    displayEach es = .error f ↔ (∃ e ∈ es, e.2.isWritable = false) ∧ f = .unwritable := by
  induction es with
  | nil => simp [displayEach]
  | cons e rest ih =>
      obtain ⟨name, v⟩ := e
      rw [displayEach]
      cases hw : v.isWritable with
      | false =>
          have hd : v.display = .error .unwritable := display_eq_error.mpr ⟨hw, rfl⟩
          simp [hd, hw, @eq_comm _ Fault.unwritable]
      | true =>
          obtain ⟨text, ht⟩ := display_of_isWritable hw
          simp [ht, hw, Except.map_eq_error_iff, ih]

end Json

end CommandShell
