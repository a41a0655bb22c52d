import CommandShell.Command.Alias
import CommandShell.Proofs.Except
import CommandShell.Proofs.Json.Writable
import CommandShell.Proofs.OrderedMap

/-! The words of aliases, and the aliases that have none because their text cannot be made. -/

namespace CommandShell.Alias

variable {entries : Entries} {name : String} {f : Json.Fault}

/-- Whether an alias is stored that has no text. -/
def IsUnwritable (entries : Entries) (name : String) : Prop :=
  ∃ v, entries.get? (key name) = some v ∧ v.isWritable = false

theorem text?_eq_error :
    text? entries name = .error f ↔ IsUnwritable entries name ∧ f = .unwritable := by
  rw [text?, IsUnwritable]
  cases hg : entries.get? (key name) with
  | none => simp
  | some v =>
      cases v with
      | null => simp [Json.isWritable, Json.unwritable?]
      | _ => simp [Except.map_eq_error_iff, Json.display_eq_error]

theorem wordsOf_eq_error :
    wordsOf entries name = .error f ↔ IsUnwritable entries name ∧ f = .unwritable := by
  rw [← text?_eq_error, wordsOf]
  rcases text? entries name with g | _ | text <;> simp

/-- A step fails only at an alias without a text. -/
theorem step_eq_error {i : Invocation} :
    step entries i = .error f ↔ IsUnwritable entries i.name ∧ f = .unwritable := by
  rw [← wordsOf_eq_error, step]
  cases ha : isAlias entries i.name with
  | true =>
      rw [if_pos rfl]
      rcases wordsOf entries i.name with g | _ | ⟨head, own⟩ <;> simp
  | false =>
      have hn : wordsOf entries i.name = .ok [] := by
        rw [isAlias, ← OrderedMap.isSome_get?, Option.isSome_eq_false_iff,
          Option.isNone_iff_eq_none] at ha
        rw [wordsOf, text?, ha]
      simp [hn]

end CommandShell.Alias
