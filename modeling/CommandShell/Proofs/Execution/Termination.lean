import CommandShell.Proofs.Execution.Request
import Mathlib.Logic.Function.Iterate

/-!
Execution comes to an end. What there is to do splits into stages, each of which leads to the next
ones inside it; no path through them is without end, so that a run is over after finitely many
steps. Entering a line lowers the depth that is left. Between two lines the statements, passes,
steps of a procedure and hops through aliases that are still to come get fewer.
-/

namespace CommandShell.Stack

open Watched (noting outcome still through through_after through_nested proceed_of_error
  proceed_of_ok proceed_of_quiet)

/-! ## Stages -/

/-- Something to be done. -/
inductive Task
  | line (text : String)
  | statements (rest : List String)
  | statement (text : String)
  /-- The passes that are left for the substitutions of a text. -/
  | passes (left : Nat) (text : List Char)
  | substitution (content : String)
  /-- A walk through aliases, with the number of hops behind it. -/
  | hop (i : Invocation) (walked : Int)
  | call (i : Invocation)
  | procedure (p : Procedure)

/-- A task with the shell that it meets. -/
structure Stage where
  room : Room
  task : Task
  shell : Shell

/-- The stages beyond a climb for which there is room. -/
def beyond (c : Climb) (room : Room) (stages : List Stage) : List Stage :=
  match room.overflow? c with
  | some _ => []
  | none => stages

/-- The walk that the words of a text set out on. -/
def readingStages (room : Room) (text : String) (s : Shell) : List Stage :=
  beyond (wordsClimb text) room
    (match Syntax.tokenize (s.session.expandVariables text) with
    | [] => []
    | name :: args => [⟨room.above 1, .hop ⟨name, args⟩ 0, s⟩])

def parsingStages (room : Room) (raw : String) (s : Shell) : List Stage :=
  beyond [.entry] room
    (if Text.isBlankText raw then []
    else if s.expanding then readingStages room raw s
    else
      beyond (searchingClimb raw) (room.above 1)
          [⟨(room.above 1).above 1, .passes s.maxPasses.toNat raw.toList,
            { s with expanding := true }⟩]
        ++ match guarded (expandWith runLine (room.above 1) raw) s with
          | (.error _, _) => []
          | (.ok text, s) => readingStages room text s)

/-- The command that the content of a substitution calls, one level deeper. -/
def nestedStages (room : Room) : Except Fault (Option Invocation) × Shell → List Stage
  | (.ok (some i), s) =>
      beyond (nestingClimb s.isFull) room
        (if s.isFull then [] else [⟨room.above 1, .call i, s.enter⟩])
  | _ => []

/-- What a stage leads to, in order. What comes after something has been done meets the shell that
it leaves, and nothing comes after what has failed. -/
def Stage.next : Stage → List Stage
  | ⟨room, .line text, s⟩ =>
      beyond [.entry] room
        (if Text.isBlankText text then []
        else
          beyond (lineClimb s.isFull) room
            (if s.isFull then []
            else [⟨room.above lineLevels, .statements (Syntax.splitStatements text), s.enter⟩]))
  | ⟨_, .statements [], _⟩ => []
  | ⟨room, .statements (text :: rest), s⟩ =>
      ⟨room, .statement text, s⟩ ::
        match runStatement runLine room text s with
        | (.error _, _) => []
        | (.ok _, s) => [⟨room, .statements rest, s⟩]
  | ⟨room, .statement text, s⟩ =>
      parsingStages room text s
        ++ match parseWith runLine room text s with
          | (.ok (some i), s) => [⟨room, .call i, s⟩]
          | _ => []
  | ⟨_, .passes 0 _, _⟩ => []
  | ⟨room, .passes (left + 1) text, s⟩ =>
      match Syntax.Substitution.innermost? text with
      | none => []
      | some span =>
          ⟨room, .substitution (String.ofList span.content), s⟩ ::
            match evaluate runLine room (String.ofList span.content) s with
            | (.error _, _) => []
            | (.ok output, s) =>
                [⟨room, .passes left (span.before ++ output.toList ++ span.after), s⟩]
  | ⟨room, .substitution content, s⟩ =>
      beyond evaluatingClimb room
        (beyond [.entry] (room.above 1)
            (if Text.isBlankText content then [] else readingStages (room.above 1) content s)
          ++ nestedStages room (parsePlain (room.above 1) content s))
  | ⟨room, .hop i walked, s⟩ =>
      beyond (hopClimb s.session.store.entries i.name) room
        (match Alias.step s.session.store.entries i with
        | .ok (next, true) =>
            if walked + 1 ≥ s.maxDepth then []
            else [⟨room.above 1, .hop next (walked + 1), s⟩]
        | _ => [])
  | ⟨room, .call i, s⟩ =>
      match s.registry.find? i.name with
      | none => []
      | some c =>
          let s := if c.card.name = clearName then s.announceClear else s
          match (room.above commandLevels).bind fun levels =>
              c.strain s.registry.directory levels i.args s.session with
          | some _ => []
          | none =>
              [⟨room.above commandLevels, .procedure (c.handler s.registry.directory i.args), s⟩]
  | ⟨_, .procedure (.finish _), _⟩ => []
  | ⟨room, .procedure (.inspect next), s⟩ => [⟨room, .procedure (next s.session), s⟩]
  | ⟨room, .procedure (.update change next), s⟩ =>
      [⟨room, .procedure next, { s with session := change s.session }⟩]
  | ⟨room, .procedure (.line text next), s⟩ =>
      ⟨room, .line text, s⟩ ::
        match runLine room text s with
        | (.error _, _) => []
        | (.ok rs, s) => [⟨room, .procedure (next rs), s⟩]

/-- The moment at which a stage begins, for those that a trace shows. -/
def Stage.moment : Stage → List Moment
  | ⟨_, .line text, s⟩ => [⟨.line text, s⟩]
  | ⟨_, .statement text, s⟩ => [⟨.statement text, s⟩]
  | ⟨_, .substitution content, s⟩ => [⟨.substitution content, s⟩]
  | ⟨_, .call i, s⟩ => [⟨.call i, s⟩]
  | ⟨_, .procedure _, s⟩ => [⟨.work, s⟩]
  | ⟨_, .statements _, _⟩ | ⟨_, .passes .., _⟩ | ⟨_, .hop .., _⟩ => []

/-- All that is set about in a stage. -/
def Stage.trace : Stage → List Moment
  | ⟨room, .line text, s⟩ => (watchLine room text s).2
  | ⟨room, .statements rest, s⟩ => (watchLine.statements room rest s).2
  | ⟨room, .statement text, s⟩ => (watchLine.statement room text s).2
  | ⟨room, .passes left text, s⟩ =>
      (watchLine.passes room (passesExceeded room s.maxPasses) left text s).2
  | ⟨room, .substitution content, s⟩ => (watchLine.evaluate room content s).2
  | ⟨_, .hop .., _⟩ => []
  | ⟨room, .call i, s⟩ => (watchLine.call room i s).2
  | ⟨room, .procedure p, s⟩ => (watchLine.procedure room p s).2

/-! ## Stages tell the trace -/

section Telling

variable {room : Room} {s : Shell} {stages : List Stage}

theorem flatMap_beyond {α : Type} {w : Watched α} (h : stages.flatMap Stage.trace = (w s).2)
    (c : Climb) :
    (beyond c room stages).flatMap Stage.trace = (through (after c room) w s).2 := by
  rw [beyond, through_after]
  cases room.overflow? c with
  | some o => rfl
  | none => exact h

/-- Reading words is seen in no trace. -/
theorem flatMap_readingStages (text : String) :
    (readingStages room text s).flatMap Stage.trace = [] := by
  rw [readingStages, beyond]
  split
  · rfl
  · split <;> rfl

/-- Being refused one more pass is seen in no trace, however it comes about. -/
theorem passes_shows (exceeded exceeded' : Fault) (count : Nat) (text : List Char) (s : Shell) :
    (watchLine.passes room exceeded count text s).2 =
      (watchLine.passes room exceeded' count text s).2 := by
  induction count generalizing text s with
  | zero =>
      cases hs : Syntax.Substitution.innermost? text with
      | none => rw [Watcher.passes_of_none hs, Watcher.passes_of_none hs]
      | some span =>
          rw [Watcher.passes_zero hs, Watcher.passes_zero hs]
          rfl
  | succ count ih =>
      cases hs : Syntax.Substitution.innermost? text with
      | none => rw [Watcher.passes_of_none hs, Watcher.passes_of_none hs]
      | some span =>
          rw [Watcher.passes_succ hs, Watcher.passes_succ hs]
          rcases hv : (watchLine.evaluate room (String.ofList span.content) s).1 with
            ⟨f | output, s'⟩
          · rw [proceed_of_error hv, proceed_of_error hv]
          · rw [proceed_of_ok hv, proceed_of_ok hv]
            exact congrArg (_ ++ ·) (ih _ s')

theorem flatMap_parsingStages (raw : String) :
    (parsingStages room raw s).flatMap Stage.trace = (watchLine.parse room raw s).2 := by
  refine flatMap_beyond ?_ _
  split
  · rfl
  · split
    · exact flatMap_readingStages raw
    · have hread : List.flatMap Stage.trace
          (match guarded (expandWith runLine (room.above 1) raw) s with
          | (.error _, _) => []
          | (.ok text, s) => readingStages room text s) = [] := by
        split
        · rfl
        · exact flatMap_readingStages _
      have hx : (beyond (searchingClimb raw) (room.above 1)
          [⟨(room.above 1).above 1, .passes s.maxPasses.toNat raw.toList,
            { s with expanding := true }⟩]).flatMap Stage.trace =
          (through guarded (watchLine.expansion (room.above 1) raw) s).2 := by
        refine flatMap_beyond ?_ _
        rw [List.flatMap_singleton]
        exact passes_shows _ _ _ _ _
      rw [List.flatMap_append, hread, List.append_nil, hx]
      exact (proceed_of_quiet fun text s => rfl).symm

theorem flatMap_nestedStages (i : Invocation) :
    (nestedStages room (.ok (some i), s)).flatMap Stage.trace =
      (watchLine.substitute room (some i) s).2 := by
  refine flatMap_beyond ?_ _
  rw [through_nested]
  split
  · rfl
  · exact List.flatMap_singleton _ _

/-- Whether a trace shows a stage and then, one after the other, the stages that it leads to. -/
def Stage.Unfolds (a : Stage) : Prop :=
  a.trace = a.moment ++ a.next.flatMap Stage.trace

theorem line_unfolds (text : String) : Stage.Unfolds ⟨room, .line text, s⟩ := by
  rw [Stage.Unfolds, Stage.trace, watchLine_eq]
  refine congrArg (Moment.mk (.line text) s :: ·) (flatMap_beyond ?_ _).symm
  split
  · rfl
  · refine flatMap_beyond ?_ _
    rw [outcome, through_nested]
    split
    · rfl
    · exact List.flatMap_singleton _ _

theorem statements_unfold (texts : List String) : Stage.Unfolds ⟨room, .statements texts, s⟩ := by
  cases texts with
  | nil => rfl
  | cons text rest =>
      have hv := watchLine_statement room text s
      rw [Stage.Unfolds, Stage.trace, Watcher.statements, Stage.next, List.flatMap_cons, ← hv]
      rcases h : (watchLine.statement room text s).1 with ⟨f | r, s'⟩
      · rw [proceed_of_error h]
        exact (List.append_nil _).symm
      · rw [proceed_of_ok h]
        exact congrArg (_ ++ ·) (List.flatMap_singleton _ _).symm

theorem statement_unfolds (text : String) : Stage.Unfolds ⟨room, .statement text, s⟩ := by
  have hv := watchLine_parse room text s
  rw [Stage.Unfolds, Stage.trace, Watcher.statement, Stage.next, List.flatMap_append,
    flatMap_parsingStages, ← hv, noting, Watched.andThen]
  refine congrArg (Moment.mk (.statement text) s :: _ ++ ·) ?_
  rcases (watchLine.parse room text s).1 with ⟨f | _ | i, s'⟩
  · rfl
  · rfl
  · exact (List.flatMap_singleton _ _).symm

theorem passes_unfold (left : Nat) (text : List Char) :
    Stage.Unfolds ⟨room, .passes left text, s⟩ := by
  rw [Stage.Unfolds, Stage.trace]
  cases left with
  | zero =>
      cases hs : Syntax.Substitution.innermost? text with
      | none => rw [Watcher.passes_of_none hs]; rfl
      | some span => rw [Watcher.passes_zero hs]; rfl
  | succ left =>
      rw [Stage.next]
      cases hs : Syntax.Substitution.innermost? text with
      | none => rw [Watcher.passes_of_none hs]; rfl
      | some span =>
          have hv := watchLine_evaluate room (String.ofList span.content) s
          rw [Watcher.passes_succ hs]
          dsimp only
          rw [← hv]
          rcases h : (watchLine.evaluate room (String.ofList span.content) s).1 with
            ⟨f | output, s'⟩
          · rw [proceed_of_error h]
            exact (List.append_nil _).symm
          · rw [proceed_of_ok h]
            refine congrArg (_ ++ ·) (Eq.trans ?_ (List.flatMap_singleton _ _).symm)
            exact passes_shows _ _ _ _ _

theorem substitution_unfolds (content : String) :
    Stage.Unfolds ⟨room, .substitution content, s⟩ := by
  rw [Stage.Unfolds, Stage.trace]
  refine congrArg (Moment.mk (.substitution content) s :: ·) (flatMap_beyond ?_ _).symm
  have hread : List.flatMap Stage.trace (beyond [.entry] (room.above 1)
      (if Text.isBlankText content then [] else readingStages (room.above 1) content s)) = [] := by
    rw [beyond]
    split
    · rfl
    · split
      · rfl
      · exact flatMap_readingStages content
  rw [List.flatMap_append, hread, List.nil_append, outcome]
  rcases h : parsePlain (room.above 1) content s with ⟨f | _ | i, s'⟩
  · rw [proceed_of_error h]; rfl
  · rw [proceed_of_ok h]; rfl
  · rw [proceed_of_ok h]
    exact flatMap_nestedStages i

theorem hop_unfolds (i : Invocation) (walked : Int) :
    Stage.Unfolds ⟨room, .hop i walked, s⟩ := by
  rw [Stage.Unfolds, Stage.trace, Stage.next, beyond]
  split
  · rfl
  · split
    · split <;> rfl
    · rfl

theorem call_unfolds (i : Invocation) : Stage.Unfolds ⟨room, .call i, s⟩ := by
  rw [Stage.Unfolds, Stage.trace, Watcher.call, Stage.next]
  refine congrArg (Moment.mk (.call i) s :: ·) ?_
  dsimp only
  cases s.registry.find? i.name with
  | none => rfl
  | some c =>
      dsimp only [outcome]
      rw [Watcher.perform]
      cases Option.bind (room.above commandLevels) _ with
      | some o => rfl
      | none =>
          refine (proceed_of_quiet fun output s => ?_).trans (List.flatMap_singleton _ _).symm
          rw [through_after]
          split <;> rfl

theorem procedure_unfolds (p : Procedure) : Stage.Unfolds ⟨room, .procedure p, s⟩ := by
  cases p with
  | finish act => rfl
  | inspect next => exact congrArg _ (List.flatMap_singleton _ _).symm
  | update change next => exact congrArg _ (List.flatMap_singleton _ _).symm
  | line text next =>
      have hv := watchLine_fst room text s
      rw [Stage.Unfolds, Stage.trace, Stage.next, List.flatMap_cons, ← hv]
      refine congrArg (Moment.mk .work s :: ·) ?_
      rcases h : (watchLine room text s).1 with ⟨f | rs, s'⟩
      · rw [proceed_of_error h]
        exact (List.append_nil _).symm
      · rw [proceed_of_ok h]
        exact congrArg (_ ++ ·) (List.flatMap_singleton _ _).symm

/-- Every stage does, whatever it is about. -/
theorem Stage.unfolds (a : Stage) : a.Unfolds := by
  obtain ⟨room, task, s⟩ := a
  cases task with
  | line text => exact line_unfolds text
  | statements texts => exact statements_unfold texts
  | statement text => exact statement_unfolds text
  | passes left text => exact passes_unfold left text
  | substitution content => exact substitution_unfolds content
  | hop i walked => exact hop_unfolds i walked
  | call i => exact call_unfolds i
  | procedure p => exact procedure_unfolds p

end Telling

/-! ## No path is without end -/

/-- Whether every path through the stages inside one is finite. -/
def Stage.Halts (a : Stage) : Prop :=
  Acc (fun b a => b ∈ a.next) a

theorem Stage.halts_of_next {a : Stage} (h : ∀ b ∈ a.next, b.Halts) : a.Halts :=
  ⟨a, h⟩

section Halting

variable {room : Room} {s : Shell}

theorem mem_beyond {c : Climb} {stages : List Stage} {b : Stage} (h : b ∈ beyond c room stages) :
    b ∈ stages := by
  rw [beyond] at h
  split at h
  · contradiction
  · exact h

/-- A walk through aliases is given up where it would reach the bound on depth. -/
theorem hop_halts (room : Room) (i : Invocation) (walked : Int) (s : Shell) :
    Stage.Halts ⟨room, .hop i walked, s⟩ := by
  generalize hn : (s.maxDepth - walked).toNat = left
  induction left using Nat.strongRecOn generalizing room i walked with
  | _ left ih =>
      apply Stage.halts_of_next
      intro b hb
      rw [Stage.next] at hb
      replace hb := mem_beyond hb
      split at hb
      · split at hb
        · contradiction
        · rename_i hw
          rw [List.mem_singleton] at hb
          rw [hb]
          exact ih _ (by omega) _ _ _ rfl
      · contradiction

theorem halts_of_mem_readingStages {text : String} {b : Stage}
    (hb : b ∈ readingStages room text s) : b.Halts := by
  replace hb := mem_beyond hb
  split at hb
  · contradiction
  · rw [List.mem_singleton] at hb
    rw [hb]
    exact hop_halts _ _ _ _

/-! Below a depth at which lines come to an end, so does everything else. -/

variable {count : Nat}
  (hl : ∀ room text s, s.depthLeft < count → Stage.Halts ⟨room, .line text, s⟩)
include hl

/-- A procedure is a finite tree, whatever the lines in it do. -/
theorem procedure_halts (room : Room) (p : Procedure) (hs : s.depthLeft < count) :
    Stage.Halts ⟨room, .procedure p, s⟩ := by
  induction p generalizing s with
  | finish act => exact Stage.halts_of_next fun b hb => absurd hb List.not_mem_nil
  | inspect next ih =>
      apply Stage.halts_of_next
      intro b hb
      rw [List.mem_singleton.mp hb]
      exact ih _ hs
  | update change next ih =>
      apply Stage.halts_of_next
      intro b hb
      rw [List.mem_singleton.mp hb]
      exact ih hs
  | line text next ih =>
      have hk := runLine_framed room text s
      apply Stage.halts_of_next
      intro b hb
      rcases List.mem_cons.mp hb with rfl | hb
      · exact hl room text s hs
      · cases hv : runLine room text s with
        | mk r s' =>
            rw [hv] at hk hb
            cases r with
            | error f => contradiction
            | ok rs =>
                rw [List.mem_singleton.mp hb]
                exact ih rs (by rw [hk.depthLeft_eq]; exact hs)

theorem call_halts (room : Room) (i : Invocation) (hs : s.depthLeft < count) :
    Stage.Halts ⟨room, .call i, s⟩ := by
  apply Stage.halts_of_next
  intro b hb
  rw [Stage.next] at hb
  split at hb
  · contradiction
  · rename_i c _
    dsimp only at hb
    split at hb
    · contradiction
    · rw [List.mem_singleton.mp hb]
      apply procedure_halts hl
      rw [(announced_kept c s).depthLeft_eq]
      exact hs

theorem substitution_halts (room : Room) (content : String) (hs : s.depthLeft < count) :
    Stage.Halts ⟨room, .substitution content, s⟩ := by
  have hk := parsePlain_framed (room.above 1) content s
  apply Stage.halts_of_next
  intro b hb
  rw [Stage.next] at hb
  rcases List.mem_append.mp (mem_beyond hb) with hb | hb
  · replace hb := mem_beyond hb
    split at hb
    · contradiction
    · exact halts_of_mem_readingStages hb
  · cases hp : parsePlain (room.above 1) content s with
    | mk r s' =>
        rw [hp] at hk hb
        rcases r with f | _ | i
        · contradiction
        · contradiction
        · replace hb := mem_beyond hb
          split at hb
          · contradiction
          · rw [List.mem_singleton.mp hb]
            apply call_halts hl
            apply Nat.lt_of_le_of_lt s'.enter_depthLeft_le
            rw [hk.depthLeft_eq]
            exact hs

/-- Each pass takes one from those that are left, whatever it puts into the text. -/
theorem passes_halts (room : Room) (left : Nat) (text : List Char) (hs : s.depthLeft < count) :
    Stage.Halts ⟨room, .passes left text, s⟩ := by
  induction left generalizing text s with
  | zero => exact Stage.halts_of_next fun b hb => absurd hb List.not_mem_nil
  | succ left ih =>
      apply Stage.halts_of_next
      intro b hb
      rw [Stage.next] at hb
      split at hb
      · contradiction
      · rename_i span _
        have hk := evaluate_framed runLine_framed room (String.ofList span.content) s
        rcases List.mem_cons.mp hb with rfl | hb
        · exact substitution_halts hl room _ hs
        · cases hv : evaluate runLine room (String.ofList span.content) s with
          | mk r s' =>
              rw [hv] at hk hb
              cases r with
              | error f => contradiction
              | ok output =>
                  rw [List.mem_singleton.mp hb]
                  exact ih _ (by rw [hk.depthLeft_eq]; exact hs)

theorem halts_of_mem_parsingStages {raw : String} {b : Stage} (hs : s.depthLeft < count)
    (hb : b ∈ parsingStages room raw s) : b.Halts := by
  replace hb := mem_beyond hb
  split at hb
  · contradiction
  · split at hb
    · exact halts_of_mem_readingStages hb
    · rcases List.mem_append.mp hb with hb | hb
      · rw [List.mem_singleton.mp (mem_beyond hb)]
        exact passes_halts hl _ _ _ hs
      · split at hb
        · contradiction
        · exact halts_of_mem_readingStages hb

theorem statement_halts (room : Room) (text : String) (hs : s.depthLeft < count) :
    Stage.Halts ⟨room, .statement text, s⟩ := by
  have hk := parseWith_framed runLine_framed room text s
  apply Stage.halts_of_next
  intro b hb
  rcases List.mem_append.mp hb with hb | hb
  · exact halts_of_mem_parsingStages hl hs hb
  · cases hp : parseWith runLine room text s with
    | mk r s' =>
        rw [hp] at hk hb
        rcases r with f | _ | i
        · contradiction
        · contradiction
        · rw [List.mem_singleton.mp hb]
          exact call_halts hl room i (by rw [hk.depthLeft_eq]; exact hs)

theorem statements_halt (room : Room) (rest : List String) (hs : s.depthLeft < count) :
    Stage.Halts ⟨room, .statements rest, s⟩ := by
  induction rest generalizing s with
  | nil => exact Stage.halts_of_next fun b hb => absurd hb List.not_mem_nil
  | cons text rest ih =>
      have hk := runStatement_framed runLine_framed room text s
      apply Stage.halts_of_next
      intro b hb
      rcases List.mem_cons.mp hb with rfl | hb
      · exact statement_halts hl room text hs
      · cases hv : runStatement runLine room text s with
        | mk r s' =>
            rw [hv] at hk hb
            cases r with
            | error f => contradiction
            | ok r =>
                rw [List.mem_singleton.mp hb]
                exact ih (by rw [hk.depthLeft_eq]; exact hs)

end Halting

/-- The induction is on the depth that is left, which a line lowers before it runs its statements. -/
theorem line_halts (room : Room) (text : String) (s : Shell) :
    Stage.Halts ⟨room, .line text, s⟩ := by
  generalize hn : s.depthLeft = left
  induction left using Nat.strongRecOn generalizing room text s with
  | _ left ih =>
      apply Stage.halts_of_next
      intro b hb
      replace hb := mem_beyond hb
      split at hb
      · contradiction
      · replace hb := mem_beyond hb
        split at hb
        · contradiction
        · rename_i hf
          rw [List.mem_singleton.mp hb]
          apply statements_halt (fun room text s h => ih _ h room text s rfl)
          rw [← hn]
          exact Shell.enter_depthLeft_lt (Bool.eq_false_iff.mpr hf)

theorem Stage.halts (a : Stage) : a.Halts := by
  obtain ⟨room, task, s⟩ := a
  have hl := fun room text (s' : Shell) (_ : s'.depthLeft < s.depthLeft + 1) =>
    line_halts room text s'
  have hs := Nat.lt_succ_self s.depthLeft
  cases task with
  | line text => exact line_halts room text s
  | statements rest => exact statements_halt hl room rest hs
  | statement text => exact statement_halts hl room text hs
  | passes left text => exact passes_halts hl room left text hs
  | substitution content => exact substitution_halts hl room content hs
  | hop i walked => exact hop_halts room i walked s
  | call i => exact call_halts hl room i hs
  | procedure p => exact procedure_halts hl room p hs

/-! ## Runs -/

/-- One step of a run: the first stage that is still to come gives way to those it leads to. -/
def advance : List Stage → List Stage
  | [] => []
  | a :: rest => a.next ++ rest

/-- What a run shows before it takes its next step. -/
def shownBefore : List Stage → List Moment
  | [] => []
  | a :: _ => a.moment

/-- What a run shows in a number of steps. -/
def shown : Nat → List Stage → List Moment
  | 0, _ => []
  | steps + 1, agenda => shownBefore agenda ++ shown steps (advance agenda)

theorem shown_add (n m : Nat) (agenda : List Stage) :
    shown (n + m) agenda = shown n agenda ++ shown m (advance^[n] agenda) := by
  induction n generalizing agenda with
  | zero => simp [shown]
  | succ n ih =>
      rw [Nat.succ_add, shown, shown, ih, List.append_assoc, Function.iterate_succ_apply]

/-- Whether a number of steps takes a run through some stages, to what was to come after them. -/
def Passes (steps : Nat) (agenda : List Stage) : Prop :=
  ∀ rest, advance^[steps] (agenda ++ rest) = rest ∧
    shown steps (agenda ++ rest) = agenda.flatMap Stage.trace

theorem Passes.append {n m : Nat} {agenda agenda' : List Stage} (h : Passes n agenda)
    (h' : Passes m agenda') : Passes (n + m) (agenda ++ agenda') := by
  intro rest
  obtain ⟨hn, hs⟩ := h (agenda' ++ rest)
  obtain ⟨hm, hs'⟩ := h' rest
  rw [List.append_assoc, Nat.add_comm n m, Function.iterate_add_apply, hn, Nat.add_comm m n,
    shown_add, hs, hn, hs', List.flatMap_append]
  exact ⟨hm, rfl⟩

theorem exists_passes {agenda : List Stage} (h : ∀ a ∈ agenda, ∃ steps, Passes steps [a]) :
    ∃ steps, Passes steps agenda := by
  induction agenda with
  | nil => exact ⟨0, fun rest => ⟨rfl, rfl⟩⟩
  | cons a rest ih =>
      obtain ⟨n, hn⟩ := h a List.mem_cons_self
      obtain ⟨m, hm⟩ := ih fun b hb => h b (List.mem_cons_of_mem a hb)
      exact ⟨n + m, hn.append hm⟩

/-- As there is no endless path, and each stage leads to finitely many, a run passes every stage. -/
theorem Stage.Halts.exists_passes {a : Stage} (h : a.Halts) : ∃ steps, Passes steps [a] := by
  induction h with
  | intro a _ ih =>
      obtain ⟨n, hn⟩ := Stack.exists_passes ih
      refine ⟨n + 1, fun rest => ?_⟩
      obtain ⟨he, hs⟩ := hn rest
      refine ⟨he, ?_⟩
      rw [List.flatMap_singleton, a.unfolds, ← hs]
      rfl

/-! ## The runner -/

/-- A runner of which nothing is seen. -/
def unwatched (run : Runner) : Watcher := fun room line => still (run room line)

/-- Lines inside a line can be run in one way only: that way of running them bottoms out. -/
theorem eq_runLine {run : Runner}
    (h : ∀ room line s, run room line s = runLineWith run room line s) : run = runLine := by
  have ha : ∀ count, AgreeBelow count (unwatched runLine) (unwatched run) := by
    intro count
    induction count with
    | zero => exact fun _ _ _ hs => absurd hs (Nat.not_lt_zero _)
    | succ count ih =>
        intro room line s hs
        have hw := Watcher.lineWith_congr (w := unwatched runLine) runLine_framed ih room line
          (Nat.le_of_lt_succ hs)
        have he : ∀ r : Runner,
            (Watcher.lineWith (unwatched r) room line s).1 = runLineWith r room line s :=
          fun r => congrFun (congrFun (congrFun (Watcher.lineWith_erased (unwatched r)) room) line) s
        have hr := congrArg Prod.fst hw
        rw [he, he, ← runLine_eq, ← h] at hr
        exact congrArg (·, []) hr
  funext room line s
  exact (congrArg Prod.fst (ha (s.depthLeft + 1) room line s (Nat.lt_succ_self _))).symm

/-- The one loop that a command has of its own asks once for each reply, and once more where they
have run out. -/
theorem poll_journal_length_le {τ υ : Type} (web : Chat.Web υ) (clock : Chat.Clock τ)
    (cfg : Chat.Config) (url : υ) (deadline : τ) (replies : List Chat.Reply) (x : Chat.Exchange τ) :
    (Chat.poll web clock cfg url deadline replies x).2.2.journal.length ≤
      x.journal.length + 2 * replies.length + 1 := by
  have hrecord (x : Chat.Exchange τ) (e : Chat.Event) :
      (x.record e).journal.length = x.journal.length + 1 := List.length_append
  induction replies generalizing x with
  | nil => exact Nat.le_of_eq (hrecord _ _)
  | cons reply rest ih =>
      have hasked := hrecord x (.request .get (web.text url) none)
      have hover : (x.record (.request .get (web.text url) none)).journal.length ≤
          x.journal.length + 2 * (reply :: rest).length + 1 := by omega
      rw [Chat.poll]
      dsimp only
      split
      · exact hover
      · exact hover
      · split
        · exact hover
        · split
          · exact hover
          · apply Nat.le_trans (ih _)
            have hwaited := hrecord (x.record (.request .get (web.text url) none))
              (.sleep cfg.pollInterval)
            rw [List.length_cons]
            dsimp only
            omega

/-- No path through the stages of a run is endless, so that every run is over after finitely many
steps, whatever its commands do. -/
theorem run_over :
    WellFounded (fun b a : Stage => b ∈ a.next) ∧
    (∀ room line s, ∃ steps, advance^[steps] [⟨room, .line line, s⟩] = [] ∧
      shown steps [⟨room, .line line, s⟩] = (watchLine room line s).2) ∧
    (∀ run : Runner, (∀ room line s, run room line s = runLineWith run room line s) ↔
      run = runLine) ∧
    (∀ (υ : Type) (web : Chat.Web υ) clock cfg url deadline replies (x : Chat.Exchange Float),
      (Chat.poll web clock cfg url deadline replies x).2.2.journal.length ≤
        x.journal.length + 2 * replies.length + 1) := by
  refine ⟨⟨Stage.halts⟩, ?_, ?_, fun υ => poll_journal_length_le⟩
  · intro room line s
    obtain ⟨steps, h⟩ := (Stage.halts ⟨room, .line line, s⟩).exists_passes
    obtain ⟨hover, hshown⟩ := h []
    exact ⟨steps, hover, hshown.trans (List.flatMap_singleton _ _)⟩
  · intro run
    constructor
    · exact eq_runLine
    · rintro rfl
      exact runLine_eq

end CommandShell.Stack
