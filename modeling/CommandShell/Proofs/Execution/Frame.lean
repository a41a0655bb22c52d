import CommandShell.Execution.Stack

/-! What execution leaves as it was. Whatever is run, and whether it ends well or fails, only the
session of a shell is another one afterwards: every level that was entered is left, and the guard
against expanding twice is off again. -/

namespace CommandShell

/-- Whether a shell is another one with some session of its own. -/
structure Shell.Kept (s s' : Shell) : Prop where
  registry_eq : s'.registry = s.registry
  depth_eq : s'.depth = s.depth
  expanding_eq : s'.expanding = s.expanding
  maxDepth_eq : s'.maxDepth = s.maxDepth
  maxPasses_eq : s'.maxPasses = s.maxPasses
  announcesClear_eq : s'.announcesClear = s.announcesClear

namespace Shell

variable {s s' s'' : Shell}

namespace Kept

theorem refl (s : Shell) : s.Kept s :=
  ⟨rfl, rfl, rfl, rfl, rfl, rfl⟩

theorem trans (h : s.Kept s') (h' : s'.Kept s'') : s.Kept s'' :=
  ⟨h'.registry_eq.trans h.registry_eq, h'.depth_eq.trans h.depth_eq,
    h'.expanding_eq.trans h.expanding_eq, h'.maxDepth_eq.trans h.maxDepth_eq,
    h'.maxPasses_eq.trans h.maxPasses_eq, h'.announcesClear_eq.trans h.announcesClear_eq⟩

theorem session (s : Shell) (session : Session) : s.Kept { s with session } :=
  ⟨rfl, rfl, rfl, rfl, rfl, rfl⟩

theorem eq_session (h : s.Kept s') : s' = { s with session := s'.session } := by
  obtain ⟨hr, hd, he, hm, hp, ha⟩ := h
  cases s'
  simp_all

theorem depthLeft_eq (h : s.Kept s') : s'.depthLeft = s.depthLeft := by
  rw [depthLeft, depthLeft, h.maxDepth_eq, h.depth_eq]

/-- The level that was entered is the one that is left. -/
theorem leave (h : s.enter.Kept s') : s.Kept s'.leave := by
  refine ⟨h.registry_eq, ?_, h.expanding_eq, h.maxDepth_eq, h.maxPasses_eq, h.announcesClear_eq⟩
  rw [Shell.leave, h.depth_eq, enter, Nat.add_sub_cancel]

/-- The guard that was off before it was set is off again. -/
theorem unguard (h : { s with expanding := true }.Kept s') (hs : s.expanding = false) :
    s.Kept { s' with expanding := false } :=
  ⟨h.registry_eq, h.depth_eq, hs.symm, h.maxDepth_eq, h.maxPasses_eq, h.announcesClear_eq⟩

end Kept

theorem announceClear_kept (s : Shell) : s.Kept s.announceClear := by
  rw [announceClear]
  split
  · exact .session s _
  · exact .refl s

end Shell

namespace Stack

open Syntax.Substitution (expand onChars onChars_eq_error onChars_eq_ok)

variable {α : Type} {act : Action α}

/-- An action that keeps everything but the session, also where it fails. -/
def Framed (act : Action α) : Prop :=
  ∀ s : Shell, s.Kept (act s).2

namespace Framed

theorem after (h : Framed act) (c : Climb) (room : Room) : Framed (after c room act) := by
  intro s
  rw [Stack.after]
  split
  · exact .refl s
  · exact h s

theorem nested (h : Framed act) : Framed (nested act) := by
  intro s
  rw [Stack.nested]
  split
  · exact .refl s
  · exact (h s.enter).leave

theorem guarded (h : Framed act) {s : Shell} (hs : s.expanding = false) :
    s.Kept (guarded act s).2 :=
  (h _).unguard hs

theorem rescue (h : Framed act) (catches : Fault → Bool) (recover : String → α) :
    Framed (rescue catches recover act) :=
  h

end Framed

theorem parsePlain_framed (room : Room) (raw : String) : Framed (parsePlain room raw) :=
  Framed.after (fun s => .refl s) _ _

/-! ## Commands -/

theorem runProcedure_framed {run : String → Action (List Result)} (hr : ∀ text, Framed (run text))
    (p : Procedure) : Framed (runProcedure run p) := by
  induction p with
  | finish act =>
      intro s
      exact .session s _
  | inspect next ih =>
      intro s
      exact ih s.session s
  | update change next ih =>
      intro s
      exact (Shell.Kept.session s _).trans (ih _)
  | line text next ih =>
      intro s
      have hk := hr text s
      rw [runProcedure]
      cases h : run text s with
      | mk r s' =>
          rw [h] at hk
          cases r with
          | error f => exact hk
          | ok rs => exact hk.trans (ih rs s')

section Runner

variable {run : Runner} (hr : ∀ room line, Framed (run room line))
include hr

theorem perform_framed (room : Room) (c : Command) (args : List String) :
    Framed (perform run room c args) := by
  intro s
  have hk := runProcedure_framed (hr room) (c.handler s.registry.directory args) s
  rw [perform]
  split
  · exact .session s _
  · cases h : runProcedure (run room) (c.handler s.registry.directory args) s with
    | mk r s' =>
        rw [h] at hk
        cases r with
        | error f => exact hk
        | ok output => exact hk.trans (Framed.after (fun s => .refl s) _ _ s')

omit hr in
/-- Announcing that the screen is cleared is part of the call of one command. -/
theorem announced_kept (c : Command) (s : Shell) :
    s.Kept (if c.card.name = clearName then s.announceClear else s) := by
  split
  · exact s.announceClear_kept
  · exact .refl s

theorem dispatchWith_kept (room : Room) (i : Invocation) (s : Shell) :
    s.Kept (dispatchWith run room i s).2 := by
  rw [dispatchWith]
  split
  · exact .refl s
  · rename_i c _
    exact (announced_kept c s).trans (perform_framed hr (room.above commandLevels) c i.args _)

/-! ## Substitutions -/

theorem evaluate_framed (room : Room) (content : String) : Framed (evaluate run room content) := by
  apply Framed.after
  apply Framed.rescue
  intro s
  have hk := parsePlain_framed (room.above 1) content s
  dsimp only
  cases h : parsePlain (room.above 1) content s with
  | mk r s' =>
      rw [h] at hk
      cases r with
      | error f => exact hk
      | ok call =>
          cases call with
          | none => exact hk
          | some i =>
              refine hk.trans (Framed.after (Framed.nested ?_) _ _ s')
              exact fun s => dispatchWith_kept hr _ i s

omit hr in
theorem expand_kept {exceeded : Fault} {evaluate : String → Action String}
    (he : ∀ content, Framed (evaluate content)) (passes : Nat) (text : List Char) (s : Shell) :
    s.Kept (expand exceeded (onChars evaluate) passes text s).2 := by
  fun_induction expand exceeded (onChars evaluate) passes text s with
  | case1 passes text s => exact .refl s
  | case2 text s => exact .refl s
  | case3 text s span _ _ f s' hv =>
      have hk := he (String.ofList span.content) s
      rw [onChars_eq_error hv] at hk
      exact hk
  | case4 text s span _ _ output s' hv ih =>
      have hk := he (String.ofList span.content) s
      rw [onChars_eq_ok hv] at hk
      exact hk.trans ih

theorem expandWith_framed (room : Room) (text : String) : Framed (expandWith run room text) := by
  apply Framed.after
  intro s
  exact expand_kept (evaluate_framed hr _) _ _ s

theorem parseWith_framed (room : Room) (raw : String) : Framed (parseWith run room raw) := by
  apply Framed.after
  intro s
  simp only
  split
  · exact .refl s
  · split
    · exact .refl s
    · rename_i hx
      have hk := (expandWith_framed hr (room.above 1) raw).guarded (Bool.eq_false_iff.mpr hx)
      split <;> simp_all

/-! ## Lines -/

theorem runStatement_framed (room : Room) (statement : String) :
    Framed (runStatement run room statement) := by
  intro s
  have hk := parseWith_framed hr room statement s
  rw [runStatement]
  cases h : parseWith run room statement s with
  | mk r s' =>
      rw [h] at hk
      cases r with
      | error f => exact hk
      | ok call =>
          cases call with
          | none => exact hk
          | some i => exact hk.trans (dispatchWith_kept hr room i s')

theorem runStatements_framed (room : Room) (statements : List String) :
    Framed (runStatements run room statements) := by
  induction statements with
  | nil => exact fun s => .refl s
  | cons statement rest ih =>
      intro s
      have hk := runStatement_framed hr room statement s
      rw [runStatements]
      cases h : runStatement run room statement s with
      | mk r s' =>
          rw [h] at hk
          cases r with
          | error f => exact hk
          | ok r => exact hk.trans (ih s')

theorem runLineWith_framed (room : Room) (line : String) : Framed (runLineWith run room line) := by
  apply Framed.after
  intro s
  simp only
  split
  · exact .refl s
  · apply Framed.after
    apply Framed.rescue
    apply Framed.nested
    exact runStatements_framed hr _ _

end Runner

theorem runLineWithin_framed (count : Nat) (room : Room) (line : String) :
    Framed (runLineWithin count room line) := by
  induction count generalizing room line with
  | zero => exact runLineWith_framed (fun _ _ s => .refl s) room line
  | succ count ih => exact runLineWith_framed ih room line

theorem runLine_framed (room : Room) (line : String) : Framed (runLine room line) :=
  fun s => runLineWithin_framed s.depthLeft room line s

theorem runInput_framed (room : Room) (line : Option String) : Framed (runInput room line) := by
  cases line with
  | none => exact Framed.after (fun s => .refl s) _ _
  | some line => exact runLine_framed room line

theorem execute_framed (room : Room) (line : Option String) : Framed (execute room line) := by
  apply Framed.after
  intro s
  exact runInput_framed _ line s

end Stack

end CommandShell
