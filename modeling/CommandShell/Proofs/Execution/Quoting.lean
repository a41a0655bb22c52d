import CommandShell.Proofs.Execution.Sequence
import CommandShell.Proofs.Syntax.Quotation

/-! Calls through lines. A line that quotes the arguments of a call comes to this call and to no
other, whatever variables and aliases there are. -/

namespace CommandShell.Stack

open Syntax (Quotation.line)
open Syntax.Quotation (Bare Calm Quotable)

section Quoted

variable {name : String} {args : List String} {s : Shell}

theorem name_ne_empty (h : s.isCommand name = true) : name ≠ "" := by
  rintro rfl
  simp [Shell.isCommand, Registry.find?] at h

variable (hc : s.isCommand name = true)
  (ha : Alias.isAlias s.session.store.entries name = false) (hn : Bare name)
  (hq : ∀ a ∈ args, Quotable a)
include hc ha hn hq

theorem parseWith_line (run : Runner) :
    parseWith run none (Quotation.line name args) s = (.ok (some ⟨name, args⟩), s) := by
  have hne := name_ne_empty hc
  have hw := Syntax.Quotation.words_line hn hne fun a h => (hq a h).ne_empty
  exact parseWith_words (Syntax.Quotation.calm_line hn hq)
    (Syntax.Quotation.isBlankText_line hn hne) hw ha

end Quoted

/-- A line of one statement that comes to a call does what the call does a level deeper. -/
theorem runLine_called {line : String} {i : Invocation} {s : Shell} (hf : s.isFull = false)
    (hs : Syntax.splitStatements line = [line])
    (hp : parseWith runLine none line s.enter = (.ok (some i), s.enter)) :
    runLine none line s =
      ((dispatch none i s.enter).1.map fun r => [r], (dispatch none i s.enter).2.leave) := by
  rcases hv : dispatch none i s.enter with ⟨r, s'⟩
  have hr : runStatement runLine none line s.enter = (r.map some, s') := by
    rw [dispatch] at hv
    simp only [runStatement, hp, hv]
  rw [runLine_nested hf rfl, hs, nested_of_not_full hf, Room.above_none]
  cases r <;> simp [runStatements, hr, Except.map]

/-- A line of a command's name and quoted arguments comes to one call, with these arguments, whatever
the variables and the other aliases are. -/
theorem runLine_quoted (name : String) (args : List String) (s : Shell)
    (hd : s.depth < s.maxDepth) (hc : s.isCommand name = true)
    (ha : Alias.isAlias s.session.store.entries name = false) (hn : Bare name)
    (hq : ∀ a ∈ args, Quotable a) :
    let line := Quotation.line name args
    let (r, s') := dispatch none ⟨name, args⟩ s.enter
    runLine none line s = (r.map fun r => [r], s'.leave) ∧
      (watchLine none line s).2 =
        ⟨.line line, s⟩ :: ⟨.statement line, s.enter⟩ ::
          (watchLine.call none ⟨name, args⟩ s.enter).2 := by
  intro line
  have hf : s.isFull = false := by simpa [Shell.isFull] using hd
  have hne := name_ne_empty hc
  have hs : Syntax.splitStatements line = [line] :=
    Syntax.splitStatements_of_trim (Syntax.Quotation.semicolon_not_mem_line hn hq)
      (Syntax.Quotation.line_ne_nil hne) (Syntax.Quotation.trim_line hn hne)
  have hp : ∀ run, parseWith run none line s.enter = (.ok (some ⟨name, args⟩), s.enter) :=
    parseWith_line (s := s.enter) hc ha hn hq
  refine ⟨runLine_called hf hs (hp runLine), ?_⟩
  have ht : watchLine.parse none line s.enter = ((.ok (some ⟨name, args⟩), s.enter), []) := by
    rw [watchParse_calm _ (Syntax.Quotation.calm_line hn hq), hp]
  rw [watchLine_nested hf rfl, hs, Room.above_none, watchStatements_singleton, Watcher.statement,
    Watched.noting, Watched.andThen, ht]
  rfl

/-- An argument with quotes, backslashes, a dollar sign and a closing parenthesis. -/
theorem runLine_quoted_bare :
    let note := Registry.empty.register (Behaviour.record.command "note" [])
    let s := Shell.bare note 3
    let args := ["a \"b\" 'c\\", "$) $"]
    s.depth < s.maxDepth ∧ s.isCommand "note" = true ∧
      Alias.isAlias s.session.store.entries "note" = false ∧ Bare "note" ∧
      (∀ a ∈ args, Quotable a) ∧
      runLine none "note \"a \\\"b\\\" 'c\\\\\" \"$) $\"" s =
        ((dispatch none ⟨"note", args⟩ s.enter).1.map fun r => [r],
          (dispatch none ⟨"note", args⟩ s.enter).2.leave) := by
  intro note s args
  have hd : s.depth < s.maxDepth := by decide
  have hc : s.isCommand "note" = true := by decide
  have ha : Alias.isAlias s.session.store.entries "note" = false := by decide
  have hn : Bare "note" := by decide
  have hq : ∀ a ∈ args, Quotable a := by
    intro a ha
    simp only [args, List.mem_cons, List.not_mem_nil, or_false] at ha
    rcases ha with rfl | rfl
    · exact ⟨by decide, by decide, by decide⟩
    · exact ⟨by decide, by decide, by decide⟩
  exact ⟨hd, hc, ha, hn, hq, (runLine_quoted "note" args s hd hc ha hn hq).1⟩

end CommandShell.Stack
