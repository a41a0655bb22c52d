import CommandShell.Proofs.Execution.Lasting
import CommandShell.Proofs.Execution.Outcome

/-! What the guard against expanding twice is for. While the substitutions of a statement are being
expanded, the lines that commands run are not searched for more, so that the bound on passes bounds
all the work of the phase; and what is evaluated in it comes from the statement and from outputs. -/

namespace CommandShell

namespace Syntax.Substitution

/-- The contents that are met and the text that remains when outputs take the places of
substitutions one after the other. Nothing else has a say in it. -/
def replay : List Char → List String → List String × List Char
  | text, [] => ([], text)
  | text, output :: later =>
      match innermost? text with
      | none => ([], text)
      | some span =>
          let (contents, rest) := replay (span.before ++ output.toList ++ span.after) later
          (String.ofList span.content :: contents, rest)

theorem replay_cons {text : List Char} {span : Span} (h : innermost? text = some span)
    (output : String) (later : List String) :
    replay text (output :: later) =
      let left := replay (span.before ++ output.toList ++ span.after) later
      (String.ofList span.content :: left.1, left.2) := by
  rw [replay]
  simp only [h]

end Syntax.Substitution

namespace Stack

open Watched
open Syntax.Substitution (innermost? replay replay_cons)

/-- The content that is evaluated, where a substitution is. -/
def Moment.content? (m : Moment) : Option String :=
  match m.activity with
  | .substitution content => some content
  | _ => none

/-- The contents that are evaluated, in order. -/
def contents (moments : List Moment) : List String :=
  moments.filterMap Moment.content?

/-- What a substitution becomes, where one is evaluated. -/
def Moment.output? (m : Moment) : Option String :=
  m.content?.bind fun content => (evaluate runLine none content m.shell).1.toOption

/-- The texts that take the places of substitutions, in order. -/
def outputs (moments : List Moment) : List String :=
  moments.filterMap Moment.output?

theorem contents_append (before after : List Moment) :
    contents (before ++ after) = contents before ++ contents after :=
  List.filterMap_append

theorem outputs_append (before after : List Moment) :
    outputs (before ++ after) = outputs before ++ outputs after :=
  List.filterMap_append

/-! ## Under the guard -/

section Guarded

variable {room : Room} {s : Shell}

/-- Where the guard is set, it stays so, and only a phase that had begun before evaluates. -/
theorem guard_lasting :
    Lasting (fun s => s.expanding = true) fun m =>
      m.shell.expanding = true ∧ m.content? = none where
  session h _ := h
  enter h _ := h
  expand h hx := absurd (h.symm.trans hx) (by decide)
  seen {s a} h ha := by
    cases a with
    | substitution content => contradiction
    | _ => exact ⟨h, rfl⟩

/-- Nothing is searched for substitutions where the guard is set. -/
theorem watchParse_guarded (w : Watcher) {raw : String} (h : s.expanding = true) :
    (w.parse room raw s).2 = [] := by
  rw [Watcher.parse, through_after]
  split
  · rfl
  · split
    · rfl
    · rfl

/-- One evaluation is one evaluation, whatever its command runs. -/
theorem watchEvaluate_guarded (room : Room) (content : String) (h : s.expanding = true) :
    ∃ inside, (watchLine.evaluate room content s).2 = ⟨.substitution content, s⟩ :: inside ∧
      ∀ m ∈ inside, m.shell.expanding = true ∧ m.content? = none := by
  have hc := guard_lasting.course
  obtain ⟨inside, he, hk⟩ := hc.substituted hc.line watchLine_framed room content
  rw [he]
  exact ⟨(inside s).2, rfl, (hk s).2 h⟩

theorem contents_evaluate (room : Room) (content : String) (h : s.expanding = true) :
    contents (watchLine.evaluate room content s).2 = [content] := by
  obtain ⟨inside, ht, hi⟩ := watchEvaluate_guarded room content h
  have hn : inside.filterMap Moment.content? = [] :=
    List.filterMap_eq_nil_iff.mpr fun m hm => (hi m hm).2
  rw [ht, contents, List.filterMap_cons, hn]
  rfl

theorem outputs_evaluate (content : String) (h : s.expanding = true) :
    outputs (watchLine.evaluate none content s).2 =
      (evaluate runLine none content s).1.toOption.toList := by
  obtain ⟨inside, ht, hi⟩ := watchEvaluate_guarded none content h
  have hn : inside.filterMap Moment.output? = [] := by
    apply List.filterMap_eq_nil_iff.mpr
    intro m hm
    rw [Moment.output?, (hi m hm).2]
    rfl
  have ho : Moment.output? ⟨.substitution content, s⟩ =
      (evaluate runLine none content s).1.toOption := rfl
  rw [ht, outputs]
  cases hv : (evaluate runLine none content s).1.toOption with
  | none => rw [List.filterMap_cons_none (ho.trans hv), hn, Option.toList_none]
  | some output => rw [List.filterMap_cons_some (ho.trans hv), hn, Option.toList_some]

theorem watchEvaluate_expanding (room : Room) (content : String) (h : s.expanding = true) :
    (watchLine.evaluate room content s).1.2.expanding = true := by
  rw [watchLine_evaluate]
  exact (evaluate_framed runLine_framed room content s).expanding_eq.trans h

/-- There are no more evaluations than passes. -/
theorem contents_passes_length (exceeded : Fault) (count : Nat) (text : List Char)
    (h : s.expanding = true) :
    (contents (watchLine.passes room exceeded count text s).2).length ≤ count := by
  induction count generalizing text s with
  | zero =>
      cases hs : innermost? text with
      | none => rw [Watcher.passes_of_none hs]; exact Nat.le_refl 0
      | some span => rw [Watcher.passes_zero hs]; exact Nat.le_refl 0
  | succ count ih =>
      cases hs : innermost? text with
      | none => rw [Watcher.passes_of_none hs]; exact Nat.zero_le _
      | some span =>
          have hx := watchEvaluate_expanding room (String.ofList span.content) h
          have hc := contents_evaluate room (String.ofList span.content) h
          rw [Watcher.passes_succ hs]
          rcases hv : (watchLine.evaluate room (String.ofList span.content) s).1 with
            ⟨f | output, s'⟩
          · rw [proceed_of_error hv, hc]
            exact Nat.succ_le_succ (Nat.zero_le _)
          · rw [hv] at hx
            rw [proceed_of_ok hv, contents_append, hc, List.length_append, Nat.add_comm]
            exact Nat.succ_le_succ (ih _ hx)

/-- How the passes over a text end: with a text that holds no more substitutions, or more than there
may be, or at an evaluation that raises something. -/
inductive PassesEnd (exceeded : Fault) (text : List Char) :
    List String → Except Fault (List Char) → Prop
  | done (h : innermost? text = none) : PassesEnd exceeded text [] (.ok text)
  | refused {span} (h : innermost? text = some span) : PassesEnd exceeded text [] (.error exceeded)
  | raised {span f} (h : innermost? text = some span) (hf : f.Wordless) :
      PassesEnd exceeded text [String.ofList span.content] (.error f)

/-- What the passes evaluate and what they leave is told by the text and the outputs. -/
theorem passes_replay (exceeded : Fault) (count : Nat) (text : List Char)
    (h : s.expanding = true) :
    let passes := watchLine.passes none exceeded count text s
    let left := replay text (outputs passes.2)
    ∃ more, contents passes.2 = left.1 ++ more ∧ PassesEnd exceeded left.2 more passes.1.1 := by
  induction count generalizing text s with
  | zero =>
      cases hs : innermost? text with
      | none =>
          rw [Watcher.passes_of_none hs]
          exact ⟨[], rfl, .done hs⟩
      | some span =>
          rw [Watcher.passes_zero hs]
          exact ⟨[], rfl, .refused hs⟩
  | succ count ih =>
      cases hs : innermost? text with
      | none =>
          rw [Watcher.passes_of_none hs]
          exact ⟨[], rfl, .done hs⟩
      | some span =>
          have hx := watchEvaluate_expanding none (String.ofList span.content) h
          have hc := contents_evaluate none (String.ofList span.content) h
          have ho := outputs_evaluate (String.ofList span.content) h
          have hv := watchLine_evaluate none (String.ofList span.content) s
          rw [← hv] at ho
          rw [Watcher.passes_succ hs]
          dsimp only
          rcases hr : (watchLine.evaluate none (String.ofList span.content) s).1 with
            ⟨f | output, s'⟩
          · rw [hr] at ho hv
            rw [proceed_of_error hr, hc, ho]
            exact ⟨_, rfl, .raised hs (evaluate_error (by rw [← hv])).of_none⟩
          · rw [hr] at ho hx
            obtain ⟨more, hm, he⟩ :=
              ih (s := s') (span.before ++ output.toList ++ span.after) hx
            rw [proceed_of_ok hr, contents_append, outputs_append, hc, ho]
            dsimp only [Except.toOption, Option.toList]
            rw [List.singleton_append, List.singleton_append, replay_cons hs]
            exact ⟨more, by rw [hm]; rfl, he⟩

end Guarded

/-! ## Statements -/

section Statement

variable {room : Room} {s : Shell}

theorem watchParse_cases (w : Watcher) (room : Room) (raw : String) (s : Shell) :
    (w.parse room raw s).2 = [] ∨ (w.parse room raw s).2 =
      (w.expansion (room.above 1) raw { s with expanding := true }).2 := by
  rw [Watcher.parse, through_after]
  split
  · exact .inl rfl
  · split
    · exact .inl rfl
    · split
      · exact .inl rfl
      · refine .inr ?_
        have hg : (through guarded (w.expansion (room.above 1) raw) s).2 =
            (w.expansion (room.above 1) raw { s with expanding := true }).2 := rfl
        rw [← hg]
        exact proceed_of_quiet fun text s => rfl

theorem contents_expansion_length (room : Room) (text : String) (h : s.expanding = true) :
    (contents (watchLine.expansion room text s).2).length ≤ s.maxPasses.toNat := by
  rw [Watcher.expansion_eq, through_after]
  split
  · exact Nat.zero_le _
  · exact contents_passes_length _ _ _ h

/-- All the evaluations of a phase, those inside its commands included, count as passes. -/
theorem contents_parse_length (room : Room) (raw : String) (s : Shell) :
    (contents (watchLine.parse room raw s).2).length ≤ s.maxPasses.toNat := by
  rcases watchParse_cases watchLine room raw s with hp | hp
  · rw [hp]
    exact Nat.zero_le _
  · have hg : ({ s with expanding := true } : Shell).expanding = true := rfl
    rw [hp]
    exact contents_expansion_length _ raw hg

/-- The guard is set from the first moment of a phase to the last. -/
theorem expanding_of_mem_parse {raw : String} {m : Moment}
    (hm : m ∈ (watchLine.parse room raw s).2) : m.shell.expanding = true := by
  have w : Lasting (fun s => s.expanding = true) fun m => m.shell.expanding = true :=
    ⟨fun h _ => h, fun h _ => h, fun _ _ => ⟨rfl, fun _ _ h => h⟩, fun h _ => h⟩
  rcases watchParse_cases watchLine room raw s with hp | hp
  · rw [hp] at hm
    contradiction
  · rw [hp] at hm
    exact (w.course.expansion w.course.line watchLine_framed _ raw _).2 ⟨rfl, fun _ _ h => h⟩ m hm

/-- At most one command is called once it is known what a statement calls. -/
theorem watchStatement_cases (w : Watcher) (room : Room) (text : String) (s : Shell) :
    ∃ following, (w.statement room text s).2 =
        ⟨.statement text, s⟩ :: ((w.parse room text s).2 ++ following) ∧
      (following = [] ∨ ∃ i s', (w.parse room text s).1 = (.ok (some i), s') ∧
        following = (w.call room i s').2) := by
  refine ⟨_, rfl, ?_⟩
  rcases (w.parse room text s).1 with ⟨f | _ | i, s'⟩
  · exact .inl rfl
  · exact .inl rfl
  · exact .inr ⟨i, s', rfl, rfl⟩

/-- What a statement calls is read off the text that the phase leaves. -/
theorem parse_replay {raw : String} (hb : Text.isBlankText raw = false)
    (hx : s.expanding = false) :
    let phase := (watchLine.parse none raw s).2
    let left := replay raw.toList (outputs phase)
    ∃ more e s', contents phase = left.1 ++ more ∧
      PassesEnd (.limit (.substitution s.maxPasses)) left.2 more e ∧ s.Kept s' ∧
      parseWith runLine none raw s = (e.bind fun text => read none (String.ofList text) s', s') := by
  have hg : ({ s with expanding := true } : Shell).expanding = true := rfl
  have hk : s.Kept (watchLine.parse none raw s).1.2 := by
    rw [watchLine_parse]
    exact parseWith_framed runLine_framed none raw s
  have hp : watchLine.parse none raw s =
      (through guarded (watchLine.expansion none raw)).proceed
        (fun text => still fun s => (read none text s, s)) s := by
    rw [Watcher.parse, through_after]
    simp [hb, hx]
  have hr := passes_replay (.limit (.substitution s.maxPasses)) s.maxPasses.toNat raw.toList hg
  generalize hv : watchLine.passes none (.limit (.substitution s.maxPasses)) s.maxPasses.toNat
    raw.toList { s with expanding := true } = passes at hr
  obtain ⟨⟨e, s'⟩, ms⟩ := passes
  have hx : through guarded (watchLine.expansion none raw) s =
      ((e.map String.ofList, { s' with expanding := false }), ms) := by
    rw [through_guarded, Watcher.expansion_eq, through_after]
    simp only [Room.overflow?_none, Room.above_none, outcome, passesExceeded, hv]
  have hread : watchLine.parse none raw s =
      ((e.bind fun text => read none (String.ofList text) { s' with expanding := false },
        { s' with expanding := false }), ms) := by
    rw [hp]
    cases e with
    | error f => rw [proceed_of_error (congrArg Prod.fst hx), hx]; rfl
    | ok text => rw [proceed_of_ok (congrArg Prod.fst hx), hx]; simp [still, Except.bind]
  rw [hread] at hk
  rw [← watchLine_parse, hread]
  obtain ⟨more, hc, he⟩ := hr
  exact ⟨more, e, _, hc, he, hk, rfl⟩

/-- While substitutions are expanded no line is searched for more, so that the passes bound the
evaluations. Only the statement and outputs are evaluated. -/
theorem substitution_guarded (statement : String) (s : Shell) (hx : s.expanding = false) :
    (∀ room,
      let phase := (watchLine.parse room statement s).2
      (watchLine.parse room statement s).1 = parseWith runLine room statement s ∧
      (watchLine.statement room statement s).1 = runStatement runLine room statement s ∧
      ((contents phase).length : Int) ≤ max 0 s.maxPasses ∧
      (∀ m ∈ phase, m.shell.expanding = true ∧
        ∀ room' text, (watchLine.parse room' text m.shell).2 = []) ∧
      (phase = [] ∨ phase =
        (watchLine.expansion (room.above 1) statement { s with expanding := true }).2) ∧
      ∃ following, (watchLine.statement room statement s).2 =
          ⟨.statement statement, s⟩ :: (phase ++ following) ∧
        (following = [] ∨ ∃ i s', parseWith runLine room statement s = (.ok (some i), s') ∧
          following = (watchLine.call room i s').2)) ∧
    (Text.isBlankText statement = false →
      let phase := (watchLine.parse none statement s).2
      let left := replay statement.toList (outputs phase)
      ∃ more e s', contents phase = left.1 ++ more ∧
        PassesEnd (.limit (.substitution s.maxPasses)) left.2 more e ∧ s.Kept s' ∧
        parseWith runLine none statement s =
          (e.bind fun text => read none (String.ofList text) s', s')) := by
  refine ⟨?_, fun hb => parse_replay hb hx⟩
  intro room phase
  refine ⟨watchLine_parse room statement s, ?_, ?_, ?_, watchParse_cases _ room statement s, ?_⟩
  · exact watchLine_statement room statement s
  · have hn : (contents phase).length ≤ s.maxPasses.toNat :=
      contents_parse_length room statement s
    omega
  · intro m hm
    have hg := expanding_of_mem_parse hm
    exact ⟨hg, fun room' text => watchParse_guarded _ hg⟩
  · rw [← watchLine_parse]
    exact watchStatement_cases _ room statement s

/-- A command that runs a line with a substitution, inside a substitution. -/
theorem substitution_guarded_bare :
    let again := Registry.empty.register (Behaviour.command (.line "again $(again)") "again" [])
    let s := { Shell.bare again 3 with maxPasses := 1 }
    let phase := (watchLine.parse none "again $(again)" s).2
    s.expanding = false ∧ Text.isBlankText "again $(again)" = false ∧
      ((contents phase).length : Int) ≤ 1 ∧
      ∃ more, contents phase = (replay "again $(again)".toList (outputs phase)).1 ++ more := by
  intro again s phase
  have hx : s.expanding = false := rfl
  have hb : Text.isBlankText "again $(again)" = false := by decide
  obtain ⟨hn, hr⟩ := substitution_guarded "again $(again)" s hx
  obtain ⟨more, e, s', hc, -⟩ := hr hb
  exact ⟨hx, hb, (hn none).2.2.1, more, hc⟩

end Statement

end Stack

end CommandShell
