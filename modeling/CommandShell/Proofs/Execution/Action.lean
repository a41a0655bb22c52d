import CommandShell.Proofs.Execution.Outcome

/-!
Commands that are one action. Such a command acts unless it overruns its room first, and what it
hands back is shown if there is room for that.
-/

namespace CommandShell.Stack

/-- Whether a call has a result that is no error. -/
def succeeds : Except Fault Result → Bool
  | .ok r => !r.isError
  | .error _ => false

/-- Whether a call has a result that is an error. -/
def fails : Except Fault Result → Bool
  | .ok r => r.isError
  | .error _ => false

/-- Only what a command hands back makes a result that is no error. -/
theorem ok_of_succeeds {o : Except Fault Output} (h : succeeds (Result.ofOutcome o) = true) :
    ∃ output, o = .ok output := by
  cases o with
  | ok output => exact ⟨output, rfl⟩
  | error f =>
      rw [Result.ofOutcome, Result.ofFault] at h
      cases hf : f.shown with
      | error f' =>
          rw [hf] at h
          contradiction
      | ok text =>
          rw [hf] at h
          contradiction

/-- How a command that is one action is performed. -/
inductive Acted (room : Room) (c : Command) (args : List String) (act : Session → Outcome)
    (s : Shell) : Except Fault Output × Shell → Prop
  | overrun {levels o y} (hr : room = some levels)
      (hs : c.strain s.registry.directory levels args s.session = some (o, y)) :
      Acted room c args act s (.error (.overflow o), { s with session := y })
  | unshown {o} (hr : room ≠ none) :
      Acted room c args act s (.error (.overflow o), { s with session := (act s.session).2 })
  | acted :
      Acted room c args act s ((act s.session).1, { s with session := (act s.session).2 })

section Action

variable {run : Runner} {room : Room} {c : Command} {args : List String} {act : Session → Outcome}
  {s : Shell}

theorem perform_acted (hh : c.handler s.registry.directory args = .finish act) :
    Acted room c args act s (perform run room c args s) := by
  rw [perform]
  cases hs : room.bind fun levels => c.strain s.registry.directory levels args s.session with
  | some overrun =>
      obtain ⟨levels, hr, ho⟩ := Option.bind_eq_some_iff.mp hs
      exact .overrun hr ho
  | none =>
      simp only [hh, runProcedure]
      have ha : Acted room c args act s
          ((act s.session).1, { s with session := (act s.session).2 }) := .acted
      have hu : ∀ o, room ≠ none → Acted room c args act s
          (.error (.overflow o), { s with session := (act s.session).2 }) := fun _ => .unshown
      rcases hact : act s.session with ⟨f | output, y⟩
      · rw [hact] at ha
        exact ha
      · rw [hact] at ha hu
        dsimp only
        rw [after]
        split
        · rename_i o ho
          refine hu o ?_
          rintro rfl
          contradiction
        · exact ha

/-- On a stack without bounds it just acts. -/
theorem perform_action (hh : c.handler s.registry.directory args = .finish act) :
    perform run none c args s =
      ((act s.session).1, { s with session := (act s.session).2 }) := by
  have ha : Acted none c args act s (perform run none c args s) := perform_acted hh
  revert ha
  generalize perform run none c args s = out
  intro ha
  cases ha with
  | overrun hr => contradiction
  | unshown hr => exact absurd rfl hr
  | acted => rfl

theorem dispatch_action {name : String} (hf : s.registry.find? name = some c)
    (hc : c.card.name ≠ clearName) (hh : c.handler s.registry.directory args = .finish act) :
    dispatch none ⟨name, args⟩ s =
      (Result.ofOutcome (act s.session).1, { s with session := (act s.session).2 }) := by
  rw [dispatch, dispatchWith_of_find? hf hc, Room.above_none, perform_action hh]

/-- If it gives something it has acted. -/
theorem perform_action_ok {output : Output}
    (hh : c.handler s.registry.directory args = .finish act)
    (h : (perform run room c args s).1 = .ok output) :
    act s.session = (.ok output, (perform run room c args s).2.session) := by
  have ha : Acted room c args act s (perform run room c args s) := perform_acted hh
  revert h ha
  generalize perform run room c args s = out
  intro h ha
  cases ha with
  | overrun => contradiction
  | unshown => contradiction
  | acted => exact Prod.ext h rfl

end Action

end CommandShell.Stack
