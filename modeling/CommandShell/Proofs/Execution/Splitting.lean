import CommandShell.Proofs.Execution.Quoting
import CommandShell.Proofs.Syntax.Trimming
import Mathlib.Data.List.Forall2

/-! What a line calls, from its pieces. Cut at every separator, each piece is read in the shell that
the one before it left, and the command that it means is called. -/

namespace CommandShell

namespace Stack

open Watched (noting outcome proceed_of_error proceed_of_ok)
open Syntax (Reading Loose)
open Syntax.Quotation (Calm)

/-! ## Texts read one after another -/

/-- What a text means in a shell: the call, what comes of it, what the call sets about, and the shell
that is left. A text that calls nothing does nothing; one that cannot be read for a bound is an
error. -/
inductive Meaning (text : String) (s : Shell) :
    Option Invocation → Except Fault (Option Result) → List Moment → Shell → Prop
  | nothing (h : parse none text s = (.ok none, s)) : Meaning text s none (.ok none) [] s
  | refused {l} (h : parse none text s = (.error (.limit l), s)) :
      Meaning text s none (.ok (some (.failure l.message))) [] s
  | raised {f} (h : parse none text s = (.error f, s)) (hf : f.Wordless) :
      Meaning text s none (.error f) [] s
  | called {i r s'} (h : parse none text s = (.ok (some i), s)) (hc : dispatch none i s = (r, s')) :
      Meaning text s (some i) (r.map some) (watchLine.call none i s).2 s'

/-- Texts that are read in turn, each in the shell that the one before it left, up to the first that
raises something. -/
inductive Calls :
    List String → Shell → List Invocation → Except Fault (List Result) → List Moment → Shell → Prop
  | nil (s) : Calls [] s [] (.ok []) [] s
  | cons {text rest s i r ms s' calls rs ms' s''} (h : Meaning text s i (.ok r) ms s')
      (hr : Calls rest s' calls rs ms' s'') :
      Calls (text :: rest) s (i.toList ++ calls) (rs.map (r.toList ++ ·)) (ms ++ ms') s''
  | raised {text rest s i f ms s'} (h : Meaning text s i (.error f) ms s') :
      Calls (text :: rest) s i.toList (.error f) ms s'

def Activity.isStatement : Activity → Bool
  | statement _ => true
  | _ => false

/-- What is set about other than statements as such. -/
def besides (ms : List Moment) : List Moment :=
  ms.filter fun m => !m.activity.isStatement

section Reading

variable {text text' : String} {s : Shell}

theorem calm_of_not_mem (h : '$' ∉ text.toList) : Calm text.toList := by
  rw [← List.append_nil text.toList]
  exact Syntax.Quotation.Calm.append_of_not_mem .nil h

/-- A text without a dollar sign is read as it stands, and the shell stays as it is. -/
theorem parse_of_not_mem (h : '$' ∉ text.toList) (s : Shell) :
    parse none text s =
      (if Text.isBlankText text then .ok none else read none text s, s) := by
  rw [parse, after_none, Room.above_none]
  cases hb : Text.isBlankText text with
  | true =>
      rw [parseWith, after_none, if_pos hb]
      rfl
  | false =>
      rw [parseWith_calm (calm_of_not_mem h) hb, after_none]
      rfl

/-- All that counts in it is whether it is blank, and its words. -/
theorem parse_congr (h : '$' ∉ text.toList) (h' : '$' ∉ text'.toList)
    (hb : Text.isBlankText text = Text.isBlankText text')
    (ht : Text.isBlankText text' = false → Syntax.tokenize text = Syntax.tokenize text')
    (s : Shell) : parse none text s = parse none text' s := by
  rw [parse_of_not_mem h, parse_of_not_mem h', hb]
  cases hb' : Text.isBlankText text' with
  | true => rfl
  | false =>
      simp only [Bool.false_eq_true, if_false, read, Room.overflow?_none,
        expandVariables_calm (calm_of_not_mem h), expandVariables_calm (calm_of_not_mem h'), ht hb']

/-- Whatever a piece is read as, it means the same. -/
theorem parse_reading {piece : List Char} (h : Reading piece text) (hl : Loose piece)
    (hd : '$' ∉ piece) (s : Shell) :
    parse none text s = parse none (String.ofList (Text.Chars.trim piece)) s := by
  have ht : Reading piece (String.ofList (Text.Chars.trim piece)) := .trimmed
  refine parse_congr (fun hm => hd (h.mem hm)) (fun hm => hd (ht.mem hm))
    (h.isBlankText_eq.trans ht.isBlankText_eq.symm) (fun hb => h.tokenize_eq hl ?_) s
  rw [← ht.isBlankText_eq, hb]

end Reading

/-! ## Statements -/

section Statements

variable {texts texts' : List String} {s s' : Shell} {calls : List Invocation}
  {rs : Except Fault (List Result)} {ms : List Moment}

theorem Meaning.congr {text text' : String} {i : Option Invocation}
    {r : Except Fault (Option Result)} (h : Meaning text s i r ms s')
    (ht : parse none text s = parse none text' s) : Meaning text' s i r ms s' := by
  cases h with
  | nothing h => exact .nothing (ht.symm.trans h)
  | refused h => exact .refused (ht.symm.trans h)
  | raised h hf => exact .raised (ht.symm.trans h) hf
  | called h hc => exact .called (ht.symm.trans h) hc

theorem Calls.congr (h : Calls texts s calls rs ms s')
    (ht : List.Forall₂ (fun t t' => ∀ s, parse none t s = parse none t' s) texts texts') :
    Calls texts' s calls rs ms s' := by
  induction h generalizing texts' with
  | nil s =>
      cases ht
      exact .nil s
  | cons h _ ih =>
      cases ht with
      | cons he hrest => exact .cons (h.congr (he _)) (ih hrest)
  | raised h =>
      cases ht with
      | cons he hrest => exact .raised (h.congr (he _))

theorem besides_append (ms ms' : List Moment) :
    besides (ms ++ ms') = besides ms ++ besides ms' :=
  List.filter_append _ _

theorem exists_meaning {text : String} (hd : '$' ∉ text.toList)
    (hb : Text.isBlankText text = false) (s : Shell) :
    ∃ i r ms s', Meaning text s i r ms s' ∧ (watchLine.statement none text s).1 = (r, s') ∧
      besides (watchLine.statement none text s).2 = besides ms := by
  have hp := parse_of_not_mem hd s
  simp only [hb, Bool.false_eq_true, if_false] at hp
  have hw : watchLine.parse none text s = ((read none text s, s), []) := by
    rw [watchParse_calm _ (calm_of_not_mem hd), watchLine_erased]
    exact Prod.ext hp rfl
  rw [Watcher.statement, noting, Watched.andThen, hw]
  rcases hv : read none text s with f | _ | i
  · rw [hv] at hp
    have hl : Raised (Bounded Fault.Wordless) none f := parseWith_error (congrArg Prod.fst hp)
    rcases hl.of_none with ⟨l, rfl⟩ | hf
    · exact ⟨_, _, _, s, .refused hp, rfl, rfl⟩
    · refine ⟨_, _, _, s, .raised hp hf, ?_, rfl⟩
      exact congrArg (·, s) (recovered_of_not hf.not_console _)
  · rw [hv] at hp
    exact ⟨_, _, _, s, .nothing hp, rfl, rfl⟩
  · rw [hv] at hp
    exact ⟨_, _, _, _, .called hp (watchLine_call none s i).symm, rfl, rfl⟩

/-- The statements among some texts do what these mean. -/
theorem exists_calls (hd : ∀ text ∈ texts, '$' ∉ text.toList) (s : Shell) :
    ∃ calls rs ms s', Calls texts s calls rs ms s' ∧
      (watchLine.statements none (texts.filter (!Text.isBlankText ·)) s).1 = (rs, s') ∧
      besides (watchLine.statements none (texts.filter (!Text.isBlankText ·)) s).2 =
        besides ms := by
  induction texts generalizing s with
  | nil => exact ⟨[], _, [], s, .nil s, rfl, rfl⟩
  | cons text rest ih =>
      rw [List.forall_mem_cons] at hd
      cases hb : Text.isBlankText text with
      | true =>
          have hp := parse_of_not_mem hd.1 s
          rw [hb] at hp
          obtain ⟨calls, rs, ms, s', hc, hr, ht⟩ := ih hd.2 s
          rw [List.filter_cons_of_neg (by simp [hb])]
          refine ⟨calls, _, ms, s', .cons (.nothing hp) hc, ?_, ht⟩
          rw [hr]
          cases rs <;> rfl
      | false =>
          obtain ⟨i, r, ms, s', hm, hs, ht⟩ := exists_meaning hd.1 hb s
          rw [List.filter_cons_of_pos (by simp [hb]), Watcher.statements]
          cases r with
          | error f =>
              rw [proceed_of_error hs]
              exact ⟨_, _, _, s', .raised hm, rfl, ht⟩
          | ok r =>
              obtain ⟨calls, rs, ms', s'', hc, hr, hts⟩ := ih hd.2 s'
              rw [proceed_of_ok hs]
              refine ⟨_, _, _, s'', .cons hm hc, ?_, ?_⟩
              · rw [outcome, hr]
              · rw [besides_append, besides_append, ht]
                exact congrArg (besides ms ++ ·) hts

end Statements

/-! ## Lines -/

section Lines

variable {line : String} {s : Shell}

/-- A line without dollar signs does what its pieces mean that are cut at every separator and trimmed,
one after another. -/
theorem runLine_trimmed (hd : s.depth < s.maxDepth) (hn : '$' ∉ line.toList) :
    ∃ calls rs ms s',
      Calls ((Text.splitAt (· = ';') line.toList).map fun p => String.ofList (Text.Chars.trim p))
        s.enter calls rs ms s' ∧
      runLine none line s = (rs, s'.leave) ∧
      besides (watchLine none line s).2.tail = besides ms := by
  have hf : s.isFull = false := by simpa [Shell.isFull] using hd
  have hd : ∀ text ∈ (Text.splitAt (· = ';') line.toList).map fun p =>
      String.ofList (Text.Chars.trim p), '$' ∉ text.toList := by
    intro text hm hc
    obtain ⟨p, hp, rfl⟩ := List.mem_map.mp hm
    rw [String.toList_ofList] at hc
    exact hn (Syntax.mem_of_mem_splitAt hp (Text.Chars.mem_of_mem_trim hc))
  obtain ⟨calls, rs, ms, s', hc, hr, ht⟩ := exists_calls hd s.enter
  refine ⟨calls, rs, ms, s', hc, ?_, ?_⟩
  · rw [runLine_nested hf rfl, nested_of_not_full hf, Room.above_none,
      Syntax.splitStatements_eq hn, ← watchLine_statements, hr]
  · rw [watchLine_nested hf rfl, Room.above_none, Syntax.splitStatements_eq hn]
    exact ht

/-- A line that is one statement calls what this means, even if the line as it is means something
else. -/
theorem not_calls (text : String) {i i' : Invocation} (hd : s.depth < s.maxDepth)
    (hn : '$' ∉ line.toList) (hs : Text.splitAt (· = ';') line.toList = [line.toList])
    (ht : String.ofList (Text.Chars.trim line.toList) = text)
    (hp : parse none line s.enter = (.ok (some i), s.enter))
    (hp' : parse none text s.enter = (.ok (some i'), s.enter)) (hi : i ≠ i') :
    ¬ ∃ calls rs ms s', Calls [line] s.enter calls rs ms s' ∧
      runLine none line s = (rs, s'.leave) ∧
      besides (watchLine none line s).2.tail = besides ms := by
  have meant : ∀ {text i j r ms s'}, Meaning text s.enter j r ms s' →
      parse none text s.enter = (.ok (some i), s.enter) →
      (besides ms).head? = some ⟨.call i, s.enter⟩ := by
    intro text i j r ms s' hm hp
    cases hm with
    | nothing h => rw [hp] at h; cases h
    | refused h => rw [hp] at h; cases h
    | raised h hf => rw [hp] at h; cases h
    | called h hc => rw [hp] at h; cases h; rfl
  have head : ∀ {text calls rs ms s' i}, Calls [text] s.enter calls rs ms s' →
      parse none text s.enter = (.ok (some i), s.enter) →
      (besides ms).head? = some ⟨.call i, s.enter⟩ := by
    intro text calls rs ms s' i h hp
    cases h with
    | cons hm hr =>
        cases hr
        rw [List.append_nil]
        exact meant hm hp
    | raised hm => exact meant hm hp
  rintro ⟨calls, rs, ms, s', hc, -, hm⟩
  obtain ⟨calls', rs', ms', s'', hc', -, hm'⟩ := runLine_trimmed hd hn
  rw [hs, List.map_singleton, ht] at hc'
  have he := head hc hp
  rw [← hm, hm', head hc' hp'] at he
  cases he
  exact hi rfl

end Lines

/-- A line without dollar signs calls what its pieces mean; trimming them changes nothing where the
white space at their ends is spaces. -/
theorem runLine_pieces (line : String) (s : Shell) (hd : s.depth < s.maxDepth)
    (hn : '$' ∉ line.toList) (reading : List Char → String)
    (hr : ∀ piece ∈ Text.splitAt (· = ';') line.toList,
      Loose piece → Reading piece (reading piece)) :
    ∃ other : List Char → String, ∃ calls rs ms s',
      Calls ((Text.splitAt (· = ';') line.toList).map fun piece =>
          if Loose piece then reading piece else other piece)
        s.enter calls rs ms s' ∧
      runLine none line s = (rs, s'.leave) ∧
      besides (watchLine none line s).2.tail = besides ms := by
  obtain ⟨calls, rs, ms, s', hc, hrun⟩ := runLine_trimmed hd hn
  refine ⟨fun piece => String.ofList (Text.Chars.trim piece), calls, rs, ms, s', hc.congr ?_, hrun⟩
  rw [List.forall₂_map_left_iff, List.forall₂_map_right_iff, List.forall₂_same]
  intro piece hp s
  split
  · rename_i hl
    have hdp : '$' ∉ piece := fun hm => hn (Syntax.mem_of_mem_splitAt hp hm)
    exact (parse_reading (hr piece hp hl) hl hdp s).symm
  · rfl

/-- Spaces around the name of a command and in quotes, a tab in front of it, and a space behind a
backslash. -/
theorem runLine_pieces_bare :
    let note := Registry.empty.register (Behaviour.record.command "note" [])
    let s := Shell.bare note 3
    let line := " note \"a \" ;\tnote; ;note b\\ "
    let reading := fun piece => if piece = "\tnote".toList then "note" else String.ofList piece
    s.depth < s.maxDepth ∧ '$' ∉ line.toList ∧
      (∀ piece ∈ Text.splitAt (· = ';') line.toList,
        Loose piece → Reading piece (reading piece)) ∧
      ∃ other : List Char → String, ∃ calls rs ms s',
        Calls [" note \"a \" ", "note", " ", other "note b\\ ".toList] s.enter calls rs ms s' ∧
          runLine none line s = (rs, s'.leave) := by
  intro note s line reading
  have hd : s.depth < s.maxDepth := by decide
  have hn : '$' ∉ line.toList := by decide
  have hp : Text.splitAt (· = ';') line.toList =
      [" note \"a \" ".toList, "\tnote".toList, " ".toList, "note b\\ ".toList] := by decide
  have hl : ∀ piece ∈ [" note \"a \" ".toList, "\tnote".toList, " ".toList], Loose piece := by
    decide
  have hh : ¬ Loose "note b\\ ".toList := by decide
  have hr : ∀ piece ∈ Text.splitAt (· = ';') line.toList,
      Loose piece → Reading piece (reading piece) := by
    rw [hp]
    intro piece hm h
    simp only [List.mem_cons, List.not_mem_nil, or_false] at hm
    rcases hm with rfl | rfl | rfl | rfl
    · exact .spaced ⟨1, 1, by decide⟩
    · exact .trimmed
    · exact .blank (by decide)
    · exact absurd h hh
  obtain ⟨other, calls, rs, ms, s', hc, hrun, -⟩ := runLine_pieces line s hd hn reading hr
  simp only [List.forall_mem_cons] at hl
  simp only [hp, List.map_cons, List.map_nil, hl, hh, if_true, if_false] at hc
  exact ⟨hd, hn, hr, other, calls, rs, ms, s', hc, hrun⟩

/-- White space at the ends that a word would hold, such as a tab in front of a name, does not reach
the command. -/
theorem runLine_trims :
    let note := Registry.empty.register (Behaviour.record.command "note" [])
    let s := Shell.bare note 3
    s.depth < s.maxDepth ∧
      ∀ line ∈ ["\tnote", "note a\\ "], '$' ∉ line.toList ∧
        Text.splitAt (· = ';') line.toList = [line.toList] ∧
        ¬ ∃ calls rs ms s', Calls [line] s.enter calls rs ms s' ∧
          runLine none line s = (rs, s'.leave) ∧
          besides (watchLine none line s).2.tail = besides ms := by
  intro note s
  have hd : s.depth < s.maxDepth := by decide
  have hp : ∀ (text name : String) (args : List String), Calm text.toList →
      Text.isBlankText text = false → Syntax.tokenize text = name :: args →
      Alias.isAlias s.session.store.entries name = false →
      parse none text s.enter = (.ok (some ⟨name, args⟩), s.enter) :=
    fun text name args hc hb ht ha => parseWith_words (s := s.enter) hc hb ht ha
  refine ⟨hd, fun line hm => ?_⟩
  simp only [List.mem_cons, List.not_mem_nil, or_false] at hm
  rcases hm with rfl | rfl
  · have hn : '$' ∉ "\tnote".toList := by decide
    have hs : Text.splitAt (· = ';') "\tnote".toList = ["\tnote".toList] := by decide
    refine ⟨hn, hs, not_calls "note" hd hn hs (by decide)
      (hp "\tnote" "\tnote" [] ?_ ?_ ?_ ?_) (hp "note" "note" [] ?_ ?_ ?_ ?_) ?_⟩
    all_goals decide
  · have hn : '$' ∉ "note a\\ ".toList := by decide
    have hs : Text.splitAt (· = ';') "note a\\ ".toList = ["note a\\ ".toList] := by decide
    refine ⟨hn, hs, not_calls "note a\\" hd hn hs (by decide)
      (hp "note a\\ " "note" ["a "] ?_ ?_ ?_ ?_) (hp "note a\\" "note" ["a\\"] ?_ ?_ ?_ ?_) ?_⟩
    all_goals decide

end Stack

end CommandShell
