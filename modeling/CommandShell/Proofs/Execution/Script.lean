import CommandShell.Proofs.Builtin.Still
import CommandShell.Proofs.Builtin.Voice
import CommandShell.Proofs.Execution.Outcome
import CommandShell.Proofs.Execution.Sequence

/-!
Scripts. The lines of a script, where none leaves a substitution open, do together what one line
would do in which semicolons stand between them, whatever they change on the way.
-/

namespace CommandShell.Stack

open Builtin (Script.texts Script.steps Script.runLines Script.report Script.climb)
open Syntax.Statement (depthAfter)

section Lines

variable {room : Room} {s : Shell} {l : String} {ls : List String}

theorem runLine_empty (hr : room.overflow? [.entry] = none) : runLine room "" s = (.ok [], s) := by
  rw [runLine_eq, runLineWith, after_of_room hr]
  rfl

/-- A line that is joined of several is the first of them and then what is joined of the others. -/
theorem runLine_joined_cons (hf : s.isFull = false) (hl : depthAfter 0 l.toList = 0)
    (hr : room.overflow? (lineClimb false) = none) :
    runLine room (String.intercalate ";" (l :: ls)) s =
      andThen (runLine room l) (runLine room (String.intercalate ";" ls)) s := by
  by_cases hn : ls = []
  · subst hn
    have he : ∀ s, runLine room (String.intercalate ";" []) s = (.ok [], s) :=
      fun s => runLine_empty (entry_of_lineClimb hr)
    rw [String.intercalate_singleton]
    cases h : runLine room l s with
    | mk r s' =>
        cases r with
        | error f => rw [andThen_of_error h]
        | ok rs =>
            rw [andThen_of_ok h, he]
            simp [Except.map]
  · rw [String.intercalate_cons_of_ne_nil hn, runLine_append hf hl _ hr]

theorem texts_append (rs rs' : List Result) :
    Script.texts (rs ++ rs') = Script.texts rs ++ Script.texts rs' := by
  simp [Script.texts]

/-- Lines that are run one after the other have the results of the joined line, and what comes next
is told the texts of all of these. -/
theorem runProcedure_runLines (hf : s.isFull = false) (hl : ∀ l ∈ ls, depthAfter 0 l.toList = 0)
    (hr : room.overflow? (lineClimb false) = none) (next : List String → Procedure) :
    runProcedure (runLine room) (Script.runLines next ls) s =
      match runLine room (String.intercalate ";" ls) s with
      | (.error f, s) => (.error f, s)
      | (.ok rs, s) => runProcedure (runLine room) (next (Script.texts rs)) s := by
  induction ls generalizing next s with
  | nil =>
      rw [String.intercalate_nil, runLine_empty (entry_of_lineClimb hr)]
      rfl
  | cons l ls ih =>
      rw [List.forall_mem_cons] at hl
      have hk := runLine_framed room l s
      rw [runLine_joined_cons hf hl.1 hr, Script.runLines, runProcedure]
      cases h : runLine room l s with
      | mk r s' =>
          rw [h] at hk
          cases r with
          | error f => rw [andThen_of_error h]
          | ok rs =>
              have hf' : s'.isFull = false := hk.isFull_eq.trans hf
              dsimp only
              rw [andThen_of_ok h, ih hf' hl.2]
              cases runLine room (String.intercalate ";" ls) s' with
              | mk r s'' =>
                  cases r with
                  | error f => rfl
                  | ok rs' => simp [Except.map, texts_append]

end Lines

/-! ## The command -/

section Command

variable {room : Room} {s : Shell}

/-- What a script shows of the results of its lines. -/
def scriptText (rs : List Result) : String :=
  if Script.texts rs = [] then "Script executed successfully with no output."
  else Text.joinLines (Script.texts rs)

theorem resultClimb_lines (ls : List String) :
    (Output.lines ls).resultClimb = [.kindTest, .entry, .entry, .call] := by
  have hd : (ls.map Json.str).foldl (fun c v => Climb.andThen c v.displayingClimb) [] = [] := by
    induction ls with
    | nil => rfl
    | cons l ls ih => exact ih
  rw [Output.lines, Output.resultClimb, hd]
  rfl

theorem toResult_lines (ls : List String) :
    (Output.lines ls).toResult = .ok (.success (Text.joinLines ls)) := by
  have hd : Json.displayAll (ls.map Json.str) = .ok ls := by
    induction ls with
    | nil => rfl
    | cons l ls ih =>
        rw [List.map_cons, Json.displayAll, Json.display, ih]
        rfl
  rw [Output.lines, Output.toResult, hd]
  rfl

/-- Handing back texts takes no more room than a line. -/
theorem report_fits (hr : room.overflow? (lineClimb false) = none) (rs : List Result) :
    ∃ output : Output, Script.report (Script.texts rs) = .answer (.ok output) ∧
      room.overflow? output.resultClimb = none ∧
      output.toResult = .ok (.success (scriptText rs)) := by
  rw [Script.report, scriptText]
  by_cases he : Script.texts rs = []
  · refine ⟨_, rfl, ?_, ?_⟩
    · rw [he]
      exact Room.overflow?_of_le hr (by decide)
    · simp only [he]
      rfl
  · refine ⟨_, rfl, ?_, ?_⟩
    · simp only [List.isEmpty_iff, he, if_false, resultClimb_lines]
      exact Room.overflow?_of_le hr (by decide)
    · simp only [List.isEmpty_iff, he, if_false, toResult_lines]

variable {target : String} {more : List String} {p : Path} {text : String}

theorem read_script (hp : s.session.resolve target = .ok p)
    (hi : s.session.disk.isFile p = .ok true) (ht : s.session.disk.readText p = .ok text) :
    Builtin.Script.read target s.session =
      .ok (Script.steps (Text.lines (Text.unifyNewlines text))) := by
  rw [Builtin.Script.read, hp]
  dsimp only
  rw [hi]
  dsimp only
  rw [Builtin.File.readLines, ht]

/-- A script that can be found and read is a run of its lines. -/
theorem perform_script {ls : List String}
    (hr : Builtin.Script.read target s.session = .ok ls)
    (hc : room.overflow? (Script.climb (target :: more) s.session) = none)
    (hroom : room.overflow? (lineClimb false) = none) (hf : s.isFull = false)
    (hl : ∀ l ∈ ls, depthAfter 0 l.toList = 0) :
    (Result.ofOutcome (perform runLine room Builtin.script (target :: more) s).1,
      (perform runLine room Builtin.script (target :: more) s).2) =
      match runLine room (String.intercalate ";" ls) s with
      | (.error f, s) => (Result.ofFault f, s)
      | (.ok rs, s) => (.ok (.success (scriptText rs)), s) := by
  have hs : (room.bind fun levels =>
      Builtin.script.strain s.registry.directory levels (target :: more) s.session) = none := by
    cases room with
    | none => rfl
    | some levels => exact Option.map_eq_none_iff.mpr hc
  have hh : runProcedure (runLine room)
      (Builtin.script.handler s.registry.directory (target :: more)) s =
      runProcedure (runLine room) (Script.runLines Script.report ls) s := by
    simp only [Builtin.script, Builtin.Script.run, runProcedure, hr]
  rw [perform, hs]
  dsimp only
  rw [hh, runProcedure_runLines hf hl hroom]
  cases runLine room (String.intercalate ";" ls) s with
  | mk r s' =>
      cases r with
      | error f => rfl
      | ok rs =>
          obtain ⟨output, ho, hfits, hresult⟩ := report_fits hroom rs
          dsimp only
          rw [ho]
          simp only [Procedure.answer, runProcedure]
          rw [after_of_room hfits]
          simp only [Result.ofOutcome, hresult]

end Command

/-- Calling a script does what the line of its lines does, and shows the texts of its results, if no
line leaves a substitution open. -/
theorem script_joined {name target : String} (more : List String) {s : Shell} {p : Path}
    {text : String} (hd : s.depth < s.maxDepth)
    (hn : s.registry.find? name = some Builtin.script) (hp : s.session.resolve target = .ok p)
    (hi : s.session.disk.isFile p = .ok true) (ht : s.session.disk.readText p = .ok text)
    (hl : ∀ l ∈ Script.steps (Text.lines (Text.unifyNewlines text)), depthAfter 0 l.toList = 0) :
    let line := String.intercalate ";" (Script.steps (Text.lines (Text.unifyNewlines text)))
    ((∃ rs s', runLine none line s = (.ok rs, s') ∧
        dispatch none ⟨name, target :: more⟩ s = (.ok (.success (scriptText rs)), s')) ∨
      ∃ f message s', f.Wordless ∧ runLine none line s = (.error f, s') ∧
        dispatch none ⟨name, target :: more⟩ s = (.ok (.failure message), s')) ∧
    ∀ room : Room,
      let inner := room.above commandLevels
      inner.overflow? (Script.climb (target :: more) s.session) = none →
      inner.overflow? (lineClimb false) = none →
      dispatch room ⟨name, target :: more⟩ s =
        match runLine inner line s with
        | (.error f, s') => (Result.ofFault f, s')
        | (.ok rs, s') => (.ok (.success (scriptText rs)), s') := by
  intro line
  have hf : s.isFull = false := by simpa [Shell.isFull] using hd
  have hc : Builtin.script.card.name ≠ clearName := by decide
  have hroom : ∀ room : Room,
      (room.above commandLevels).overflow? (Script.climb (target :: more) s.session) = none →
      (room.above commandLevels).overflow? (lineClimb false) = none →
      dispatch room ⟨name, target :: more⟩ s =
        match runLine (room.above commandLevels) line s with
        | (.error f, s') => (Result.ofFault f, s')
        | (.ok rs, s') => (.ok (.success (scriptText rs)), s') := by
    intro room hclimb hline
    rw [dispatch, dispatchWith_of_find? hn hc]
    exact perform_script (read_script hp hi ht) hclimb hline hf hl
  refine ⟨?_, hroom⟩
  rw [hroom none rfl rfl, Room.above_none]
  rcases h : runLine none line s with ⟨f | rs, s'⟩
  · have hw : f.Wordless := (runLine_error (congrArg Prod.fst h)).of_none
    obtain ⟨message, hm⟩ := hw.shown_ok
    refine .inr ⟨f, message, s', hw, rfl, ?_⟩
    dsimp only
    rw [Result.ofFault, hm]
    rfl
  · exact .inl ⟨rs, s', rfl, rfl⟩

/-- A script with a comment, a blank line and a line of two statements. -/
def notes : String :=
  "# notes\n note a \r\n\n note $(note b;c);note d"

/-- A command that keeps its calls, next to the one for scripts. -/
def noteRegistry : Registry :=
  (Registry.empty.register Builtin.script).register (Behaviour.record.command "note" [])

def notesDisk : Disk :=
  ⟨OrderedMap.ofList [(["notes"], .file notes.toUTF8 false)], [], 0⟩

/-- A shell whose disk holds that script. -/
def notesShell : Shell :=
  let s := Shell.bare noteRegistry 3
  { s with session := { s.session with disk := notesDisk } }

/-- Its commands leave an empty store as it is. -/
theorem worded_notes : Worded noteRegistry fun x => x.store.entries = OrderedMap.empty := by
  refine worded_of_values fun c hc args => ?_
  have hv : noteRegistry.values = [Builtin.script, Behaviour.record.command "note" []] := rfl
  rw [hv] at hc
  rcases List.mem_pair.mp hc with rfl | rfl
  · exact ⟨Command.does_of_climb (fun _ h => h) (Builtin.script_does (fun _ h => h) args) rfl,
      Builtin.script_voices args⟩
  · exact ⟨⟨fun x h => h, fun h => nomatch h⟩, fun x f f' h => nomatch h⟩

theorem script_joined_notes :
    (notesShell.depth < notesShell.maxDepth ∧
      notesShell.registry.find? "script" = some Builtin.script ∧
      notesShell.session.resolve "notes" = .ok ⟨.slash, ["notes"]⟩ ∧
      notesShell.session.disk.isFile ⟨.slash, ["notes"]⟩ = .ok true ∧
      notesShell.session.disk.readText ⟨.slash, ["notes"]⟩ = .ok notes ∧
      Script.steps (Text.lines (Text.unifyNewlines notes)) = ["note a", "note $(note b;c);note d"] ∧
      ∀ l ∈ ["note a", "note $(note b;c);note d"], depthAfter 0 l.toList = 0) ∧
    ∃ rs s', runLine none "note a;note $(note b;c);note d" notesShell = (.ok rs, s') ∧
      dispatch none ⟨"script", ["notes"]⟩ notesShell = (.ok (.success (scriptText rs)), s') := by
  have hd : notesShell.depth < notesShell.maxDepth := by decide
  have hn : notesShell.registry.find? "script" = some Builtin.script := rfl
  have hp : notesShell.session.resolve "notes" = .ok ⟨.slash, ["notes"]⟩ := rfl
  have hi : notesShell.session.disk.isFile ⟨.slash, ["notes"]⟩ = .ok true := rfl
  have ht : notesShell.session.disk.readText ⟨.slash, ["notes"]⟩ = .ok notes := rfl
  have hs : Script.steps (Text.lines (Text.unifyNewlines notes)) =
      ["note a", "note $(note b;c);note d"] := by decide
  have hl : ∀ l ∈ ["note a", "note $(note b;c);note d"], depthAfter 0 l.toList = 0 := by decide
  have h := (script_joined [] hd hn hp hi ht (hs ▸ hl)).1
  rw [hs] at h
  refine ⟨⟨hd, hn, hp, hi, ht, hs, hl⟩, h.resolve_right ?_⟩
  rintro ⟨f, message, s', -, hf, -⟩
  have hw : Among noteRegistry (fun x => x.store.entries = OrderedMap.empty) notesShell :=
    ⟨rfl, rfl⟩
  obtain ⟨rs, hr⟩ := worded_notes.runInput hw (some "note a;note $(note b;c);note d")
  have he : (runInput none (some "note a;note $(note b;c);note d") notesShell).1 = .error f :=
    congrArg Prod.fst hf
  rw [hr] at he
  contradiction

end CommandShell.Stack
