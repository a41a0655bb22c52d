import CommandShell.Proofs.Execution.Watch

/-! A line is run, and watched, by running its statements, with lines inside it run in the same way.
Counting the levels that are left bounds the recursion but shows in nothing that comes of it: a count
that is high enough may be any other. -/

namespace CommandShell

namespace Shell

variable {s : Shell}

theorem enter_depthLeft_le (s : Shell) : s.enter.depthLeft ≤ s.depthLeft := by
  simp only [depthLeft, enter]
  omega

theorem enter_depthLeft_lt (h : s.isFull = false) : s.enter.depthLeft < s.depthLeft := by
  simp only [isFull, decide_eq_false_iff_not] at h
  simp only [depthLeft, enter]
  omega

end Shell

namespace Stack

open Syntax.Substitution (innermost?)

/-! ## Ways of watching -/

namespace Watched

variable {α β : Type} {w w' : Watched α} {s : Shell}

theorem noting_congr (a : Activity) (h : w s = w' s) : noting a w s = noting a w' s := by
  rw [noting, noting, h]

theorem andThen_congr {next next' : Except Fault α → Watched β} (h : w s = w' s)
    (hn : ∀ r, next r (w s).1.2 = next' r (w s).1.2) : w.andThen next s = w'.andThen next' s := by
  rw [andThen, andThen, ← h, hn]

theorem proceed_congr {next next' : α → Watched β} (h : w s = w' s)
    (hn : ∀ a, next a (w s).1.2 = next' a (w s).1.2) : w.proceed next s = w'.proceed next' s := by
  refine andThen_congr h fun r => ?_
  cases r with
  | error f => rfl
  | ok a => exact hn a

theorem outcome_congr (change : Except Fault α → Except Fault β) (h : w s = w' s) :
    outcome change w s = outcome change w' s := by
  rw [outcome, outcome, h]

theorem after_congr (h : w s = w' s) (c : Climb) (room : Room) :
    through (after c room) w s = through (after c room) w' s := by
  rw [through_after, through_after, h]

theorem nested_congr (h : s.isFull = false → w s.enter = w' s.enter) :
    through nested w s = through nested w' s := by
  rw [through_nested, through_nested]
  cases hf : s.isFull with
  | true => rfl
  | false => rw [h hf]

theorem guarded_congr (h : w { s with expanding := true } = w' { s with expanding := true }) :
    through guarded w s = through guarded w' s := by
  rw [through_guarded, through_guarded, h]

end Watched

/-! ## Agreement -/

/-- Two watchers that give the same wherever fewer levels than some number are left. -/
def AgreeBelow (count : Nat) (w w' : Watcher) : Prop :=
  ∀ room line s, s.depthLeft < count → w room line s = w' room line s

namespace Watcher

open Watched

section Agreement

variable {w w' : Watcher} {count : Nat} {s : Shell}
  (hr : ∀ room line, Framed (w.runner room line)) (ha : AgreeBelow count w w')

/-- What leaves no fewer levels than there were. -/
theorem depthLeft_lt {α : Type} {v : Watched α} (h : Framed v.action) (hs : s.depthLeft < count) :
    (v s).1.2.depthLeft < count := by
  have he : (v s).1.2.depthLeft = s.depthLeft := (h s).depthLeft_eq
  omega

include hr ha

theorem procedure_congr (room : Room) (p : Procedure) (hs : s.depthLeft < count) :
    w.procedure room p s = w'.procedure room p s := by
  induction p generalizing s with
  | finish act => rfl
  | inspect next ih => exact noting_congr _ (ih s.session hs)
  | update change next ih =>
      refine noting_congr _ ?_
      exact ih (s := { s with session := change s.session }) hs
  | line text next ih =>
      refine noting_congr _ (proceed_congr (ha room text s hs) fun rs => ?_)
      exact ih rs (depthLeft_lt (hr room text) hs)

theorem perform_congr (room : Room) (c : Command) (args : List String)
    (hs : s.depthLeft < count) : w.perform room c args s = w'.perform room c args s := by
  rw [perform, perform]
  cases room.bind fun levels => c.strain s.registry.directory levels args s.session with
  | some overrun => rfl
  | none => exact proceed_congr (procedure_congr hr ha room _ hs) fun _ => rfl

theorem call_congr (room : Room) (i : Invocation) (hs : s.depthLeft < count) :
    w.call room i s = w'.call room i s := by
  refine noting_congr _ ?_
  cases s.registry.find? i.name with
  | none => rfl
  | some c =>
      refine outcome_congr _ (perform_congr hr ha _ c i.args ?_)
      rwa [(announced_kept c s).depthLeft_eq]

theorem evaluate_congr (room : Room) (content : String) (hs : s.depthLeft < count) :
    w.evaluate room content s = w'.evaluate room content s := by
  refine noting_congr _
    (Watched.after_congr (outcome_congr _ (proceed_congr rfl fun call => ?_)) _ _)
  have hs' : (still (parsePlain (room.above 1) content) s).1.2.depthLeft < count :=
    depthLeft_lt (parsePlain_framed (room.above 1) content) hs
  cases call with
  | none => rfl
  | some i =>
      refine Watched.after_congr (Watched.nested_congr fun _ => outcome_congr _ ?_) _ _
      exact call_congr hr ha _ i (Nat.lt_of_le_of_lt (Shell.enter_depthLeft_le _) hs')

theorem passes_congr {exceeded : Fault} (room : Room) (passes : Nat) (text : List Char)
    (hs : s.depthLeft < count) :
    w.passes room exceeded passes text s = w'.passes room exceeded passes text s := by
  induction passes generalizing text s with
  | zero =>
      cases h : innermost? text with
      | none => rw [passes_of_none h, passes_of_none h]
      | some span => rw [passes_zero h, passes_zero h]
  | succ passes ih =>
      cases h : innermost? text with
      | none => rw [passes_of_none h, passes_of_none h]
      | some span =>
          rw [passes_succ h, passes_succ h]
          refine proceed_congr (evaluate_congr hr ha room _ hs) fun output => ih _ ?_
          refine depthLeft_lt ?_ hs
          rw [evaluate_erased]
          exact evaluate_framed hr room _

theorem expansion_congr (room : Room) (text : String) (hs : s.depthLeft < count) :
    w.expansion room text s = w'.expansion room text s := by
  rw [expansion_eq, expansion_eq]
  refine Watched.after_congr ?_ _ _
  exact outcome_congr _ (passes_congr hr ha _ _ _ hs)

theorem parse_congr (room : Room) (raw : String) (hs : s.depthLeft < count) :
    w.parse room raw s = w'.parse room raw s := by
  have hg : through guarded (w.expansion (room.above 1) raw) s =
      through guarded (w'.expansion (room.above 1) raw) s :=
    guarded_congr (expansion_congr hr ha _ raw hs)
  rw [parse, parse]
  refine Watched.after_congr ?_ _ _
  split
  · rfl
  · split
    · rfl
    · exact proceed_congr hg fun _ => rfl

theorem statement_congr (room : Room) (text : String) (hs : s.depthLeft < count) :
    w.statement room text s = w'.statement room text s := by
  refine noting_congr _ (andThen_congr (parse_congr hr ha room text hs) fun r => ?_)
  have hs' : (w.parse room text s).1.2.depthLeft < count := by
    refine depthLeft_lt ?_ hs
    rw [parse_erased]
    exact parseWith_framed hr room text
  rcases r with f | _ | i
  · rfl
  · rfl
  · exact outcome_congr _ (call_congr hr ha room i hs')

theorem statements_congr (room : Room) (texts : List String) (hs : s.depthLeft < count) :
    w.statements room texts s = w'.statements room texts s := by
  induction texts generalizing s with
  | nil => rfl
  | cons text rest ih =>
      refine proceed_congr (statement_congr hr ha room text hs) fun r => outcome_congr _ (ih ?_)
      refine depthLeft_lt ?_ hs
      rw [statement_erased]
      exact runStatement_framed hr room text

theorem lineWith_congr (room : Room) (line : String) (hs : s.depthLeft ≤ count) :
    lineWith w room line s = lineWith w' room line s := by
  rw [lineWith, lineWith]
  refine noting_congr _ (Watched.after_congr ?_ _ _)
  split
  · rfl
  · refine Watched.after_congr (outcome_congr _ (Watched.nested_congr fun hf => ?_)) _ _
    exact statements_congr hr ha _ _ (Nat.lt_of_lt_of_le (Shell.enter_depthLeft_lt hf) hs)

end Agreement

theorem lineWithin_framed (count : Nat) (room : Room) (line : String) :
    Framed ((lineWithin count).runner room line) := by
  rw [lineWithin_erased]
  exact runLineWithin_framed count room line

/-- Any two counts that are high enough give the same. -/
theorem lineWithin_eq {count count' : Nat} {s : Shell} (hs : s.depthLeft ≤ count)
    (hs' : s.depthLeft ≤ count') (room : Room) (line : String) :
    lineWithin count room line s = lineWithin count' room line s := by
  have hzero : ∀ w w' : Watcher, AgreeBelow 0 w w' := fun _ _ _ _ _ h => absurd h (Nat.not_lt_zero _)
  induction count generalizing count' room line s with
  | zero =>
      cases count' with
      | zero => rfl
      | succ count' =>
          refine lineWith_congr (fun _ _ => ?_) (hzero _ _) room line hs
          exact fun s => .refl s
  | succ count ih =>
      cases count' with
      | zero => exact lineWith_congr (lineWithin_framed count) (hzero _ _) room line hs'
      | succ count' =>
          -- A line inside has fewer levels left than this one, so that both counts cover it.
          apply lineWith_congr (lineWithin_framed count) _ room line (Nat.le_refl s.depthLeft)
          intro room line s' h
          exact ih (by omega) (by omega) room line

end Watcher

/-- A line is watched with the lines inside it watched in the same way. -/
theorem watchLine_eq (room : Room) (line : String) (s : Shell) :
    watchLine room line s = Watcher.lineWith watchLine room line s := by
  have h : watchLine room line s = Watcher.lineWithin (s.depthLeft + 1) room line s :=
    Watcher.lineWithin_eq (Nat.le_refl _) (Nat.le_succ _) room line
  rw [h, Watcher.lineWithin]
  apply Watcher.lineWith_congr (Watcher.lineWithin_framed _) _ room line (Nat.le_refl s.depthLeft)
  intro room line s' hs
  exact Watcher.lineWithin_eq (Nat.le_of_lt hs) (Nat.le_refl _) room line

/-- A line is run with the lines inside it run in the same way. -/
theorem runLine_eq (room : Room) (line : String) (s : Shell) :
    runLine room line s = runLineWith runLine room line s := by
  have h : watchLine.runner room line s = (Watcher.lineWith watchLine).runner room line s :=
    congrArg Prod.fst (watchLine_eq room line s)
  rwa [Watcher.lineWith_erased, watchLine_erased] at h

end Stack

end CommandShell
