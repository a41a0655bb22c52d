import CommandShell.Command.Custom
import CommandShell.Proofs.Execution.Calm
import CommandShell.Startup

/-! What becomes of lines, statements, calls and substitutions on a stack without bounds. The rules
leave no case out: a bound that is reached is an error of the one statement, line or substitution
that reached it, and nothing is raised but for want of a text. -/

namespace CommandShell.Stack

theorem Raised.of_none {E : Fault → Prop} {f : Fault} (h : Raised E none f) : E f :=
  h.resolve_left not_spills_none

/-- A call of a command that does not clear the screen is what the command does. -/
theorem dispatchWith_of_find? {run : Runner} {c : Command} {room : Room} {i : Invocation}
    {s : Shell} (hf : s.registry.find? i.name = some c) (hc : c.card.name ≠ clearName) :
    dispatchWith run room i s =
      (Result.ofOutcome (perform run (room.above commandLevels) c i.args s).1,
        (perform run (room.above commandLevels) c i.args s).2) := by
  rw [dispatchWith, hf]
  dsimp only
  rw [if_neg hc]

/-- Sessions among which the commands of a registry stay, where every alias has a text and every
failure as well. -/
def Worded (r : Registry) (P : Session → Prop) : Prop :=
  Sources r P fun _ => False

theorem runLine_full {s : Shell} {line : String} (hf : s.isFull = true)
    (hb : Text.isBlankText line = false) :
    runLine none line s = (.ok [.failure (Limit.nesting s.maxDepth).message], s) := by
  rw [runLine_eq, runLineWith, after_none]
  simp only [hb, Bool.false_eq_true, ↓reduceIte, after_none, rescue, nested, hf]
  rfl

section Worded

variable {r : Registry} {P : Session → Prop} {s : Shell} (w : Worded r P) (hs : Among r P s)
include w hs

theorem Worded.runInput (line : Option String) : ∃ rs, (runInput none line s).1 = .ok rs := by
  cases line with
  | none => exact ⟨[], rfl⟩
  | some line =>
      have hl := w.line none line s
      cases h : (runLine none line s).1 with
      | ok rs => exact ⟨rs, h⟩
      | error f =>
          rw [← watchLine_fst] at h
          exact (hl f hs h).of_none.elim

theorem Worded.dispatch (i : Invocation) : ∃ result, (dispatch none i s).1 = .ok result := by
  have hc := w.call w.account.course.line w.line none i s
  cases h : (Stack.dispatch none i s).1 with
  | ok result => exact ⟨result, rfl⟩
  | error f =>
      rw [Stack.dispatch, ← watchLine_call] at h
      exact (hc f hs h).of_none.elim

end Worded

/-- Commands that leave an empty store as it is, and whose failures have texts. -/
theorem worded_of_values {r : Registry} (h : ∀ c ∈ r.values, ∀ args,
    c.Does (fun x y => x.store.entries = OrderedMap.empty → y.store.entries = OrderedMap.empty)
      r.directory args ∧ (c.handler r.directory args).Voices fun _ => False) :
    Worded r fun x => x.store.entries = OrderedMap.empty := by
  have hm : ∀ {i : Invocation} {c : Command}, r.find? i.name = some c → c ∈ r.values := by
    intro i c hf
    rw [Registry.find?] at hf
    split at hf
    · contradiction
    · exact List.mem_map.mpr ⟨_, OrderedMap.mem_of_get? hf, rfl⟩
  refine ⟨False.elim, fun hx hs => ?_, fun hx => hx, fun hf => (h _ (hm hf) _).1,
    fun hf => (h _ (hm hf) _).2⟩
  obtain ⟨⟨v, hv, -⟩, -⟩ := Alias.step_eq_error.mp hs
  rw [hx] at hv
  contradiction

theorem worded_record (name : String) :
    Worded (Registry.empty.register (Behaviour.record.command name []))
      fun x => x.store.entries = OrderedMap.empty := by
  refine worded_of_values fun c hc args => ?_
  obtain rfl := List.mem_singleton.mp hc
  exact ⟨⟨fun x h => h, fun h => nomatch h⟩, fun x f f' h => nomatch h⟩

end CommandShell.Stack
