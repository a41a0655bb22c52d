import CommandShell.Proofs.Substitution.Walk

/-! The loop that splices outputs in and searches again. Where no output can open or close anything,
it makes the calls of the walk, one a pass and in the same order. -/

namespace CommandShell.Syntax.Substitution

variable {σ ε : Type}

/-! ## The search after a splice -/

/-- No opener has a dollar sign before it, so that an output that is empty or begins with a
parenthesis opens nothing. -/
def Single (text : List Char) : Prop :=
  ¬ ['$', '$', '('] <:+: text

theorem Single.before_end {before content after : List Char}
    (h : Single (before ++ (bracket content ++ after))) : before.getLast? ≠ some '$' := by
  intro hl
  obtain ⟨start, rfl⟩ := List.getLast?_eq_some_iff.mp hl
  exact h ⟨start, content ++ ')' :: after, by simp [bracket]⟩

theorem CutAt.splice {text output : List Char} {span : Span} (h : CutAt text span)
    (hs : Single text) (hd : '$' ∉ output) (hp : ')' ∉ output) :
    Splice span.before span.content output := by
  rw [h.text_eq] at hs
  exact ⟨h.before_open, hs.before_end, h.inert, hd, hp⟩

theorem Single.append_of_not_mem {output after : List Char} (h : Single after)
    (hd : '$' ∉ output) : Single (output ++ after) := by
  induction output with
  | nil => exact h
  | cons c output ih =>
      simp only [List.mem_cons, not_or] at hd
      rw [Single, List.cons_append, List.infix_cons_iff, not_or]
      refine ⟨?_, ih hd.2⟩
      intro hpre
      exact hd.1 (List.cons_prefix_cons.mp hpre).1

theorem Splice.single {before content output after : List Char}
    (h : Splice before content output) (hs : Single (before ++ (bracket content ++ after))) :
    Single (before ++ (output ++ after)) := by
  have he := h.before_end
  replace h := h.no_opener
  induction before with
  | nil =>
      apply Single.append_of_not_mem _ h
      intro hi
      exact hs (List.infix_append_of_infix_right (List.infix_append_of_infix_right hi))
  | cons c rest ih =>
      rw [Single, List.cons_append, List.infix_cons_iff, not_or] at hs ⊢
      refine ⟨?_, ih hs.2 (by cases rest <;> simp_all)⟩
      intro hpre
      rw [List.cons_prefix_cons] at hpre
      obtain ⟨rfl, hpre⟩ := hpre
      cases rest with
      | nil => exact he rfl
      | cons d rest =>
          rw [List.cons_append, List.cons_prefix_cons] at hpre
          obtain ⟨rfl, hpre⟩ := hpre
          cases rest with
          | nil => exact he rfl
          | cons e rest =>
              rw [List.cons_append, List.cons_prefix_cons] at hpre
              obtain ⟨rfl, -⟩ := hpre
              exact hs.1 (by simp)

/-! ## The loop -/

section Loop

variable (exceeded : ε) {text : List Char}

theorem expand_certain (evaluate : String → σ → String × σ) {span : Span}
    (h : innermost? text = some span) (passes : Nat) (s : σ) :
    expand exceeded (onChars (certain evaluate)) (passes + 1) text s =
      expand exceeded (onChars (certain evaluate)) passes
        (span.before ++ ((evaluate (String.ofList span.content) s).1.toList ++ span.after))
        (evaluate (String.ofList span.content) s).2 := by
  rw [expand_succ h, ← List.append_assoc]
  rfl

/-- Keeping the contents changes nothing else. -/
theorem expand_recorded (evaluate : String → σ → String × σ) (passes : Nat) (text : List Char)
    (s : σ) (contents : List String) :
    expand exceeded (onChars (certain evaluate)) passes text s =
      let r := expand exceeded (onChars (certain (recorded evaluate))) passes text (s, contents)
      (r.1, r.2.1) := by
  induction passes generalizing text s contents with
  | zero =>
      cases h : innermost? text with
      | none => rw [expand_of_none h, expand_of_none h]
      | some span => rw [expand_zero h, expand_zero h]
  | succ passes ih =>
      cases h : innermost? text with
      | none => rw [expand_of_none h, expand_of_none h]
      | some span =>
          rw [expand_certain exceeded evaluate h, expand_certain exceeded (recorded evaluate) h]
          exact ih _ _ _

/-- The calls of the loop and of the walk on a text. The passes that are allowed count the calls
that the loop makes before it gives up. -/
structure Agrees (evaluate : String → σ → String × σ) (text : List Char) (s : σ)
    (contents : List String) : Prop where
  length_eq : contents.length = closedCount text
  walk_eq : ∀ earlier, walk (recorded evaluate) text (s, earlier) =
    ((walk evaluate text s).1, (walk evaluate text s).2, earlier ++ contents)
  state_eq : (walk evaluate text s).2 = stateAfter evaluate contents s
  expand_eq : ∀ passes earlier,
    expand exceeded (onChars (certain (recorded evaluate))) passes text (s, earlier) =
      (if closedCount text ≤ passes then .ok (walk evaluate text s).1 else .error exceeded,
        stateAfter evaluate (contents.take passes) s, earlier ++ contents.take passes)

section Agrees

variable {evaluate : String → σ → String × σ} {s : σ}

theorem Agrees.of_closedCount_eq_zero (h : closedCount text = 0) :
    Agrees exceeded evaluate text s [] := by
  refine ⟨?_, ?_, ?_, ?_⟩
  · simp [h]
  · simp [walk_of_closedCount_eq_zero _ h]
  · simp [walk_of_closedCount_eq_zero _ h, stateAfter]
  · intro passes earlier
    rw [expand_of_none ((innermost?_eq_none_iff text).mpr h)]
    simp [h, walk_of_closedCount_eq_zero _ h, stateAfter]

/-- A pass makes the first call of the walk; the others are those on the spliced text. -/
theorem Agrees.of_splice {span : Span} {contents : List String}
    (hspan : innermost? text = some span) (hcut : CutAt text span)
    (hsp : Splice span.before span.content (evaluate (String.ofList span.content) s).1.toList)
    (h : Agrees exceeded evaluate
      (span.before ++ ((evaluate (String.ofList span.content) s).1.toList ++ span.after))
      (evaluate (String.ofList span.content) s).2 contents) :
    Agrees exceeded evaluate text s (String.ofList span.content :: contents) := by
  have hcount := hsp.closedCount_eq span.after
  have hwalk := hsp.walk_eq span.after
  rw [← hcut.text_eq] at hcount hwalk
  refine ⟨?_, ?_, ?_, ?_⟩
  · rw [List.length_cons, h.length_eq, hcount]
  · intro earlier
    have hr : Splice span.before span.content
        (recorded evaluate (String.ofList span.content) (s, earlier)).1.toList := hsp
    have hr := hr.walk_eq span.after
    rw [← hcut.text_eq] at hr
    rw [hr, hwalk]
    simpa [recorded] using h.walk_eq (earlier ++ [String.ofList span.content])
  · rw [hwalk, h.state_eq]
    rfl
  · intro passes earlier
    cases passes with
    | zero =>
        rw [expand_zero hspan]
        simp [hcount, stateAfter]
    | succ passes =>
        rw [expand_certain exceeded _ hspan, hwalk]
        have he := h.expand_eq passes (earlier ++ [String.ofList span.content])
        simpa [recorded, hcount, stateAfter] using he

/-- Each pass closes one opener less, so that the passes come to an end with the walk. -/
theorem exists_agrees
    (hp : ∀ content s, '$' ∉ (evaluate content s).1.toList ∧ ')' ∉ (evaluate content s).1.toList)
    (text : List Char) (hs : Single text) (s : σ) :
    ∃ contents, Agrees exceeded evaluate text s contents := by
  -- The text grows and shrinks with the outputs; only the closed openers are sure to get fewer.
  induction hk : closedCount text generalizing text s with
  | zero => exact ⟨[], .of_closedCount_eq_zero exceeded hk⟩
  | succ k ih =>
      have hne : innermost? text ≠ none := by
        rw [ne_eq, innermost?_eq_none_iff, hk]
        exact Nat.succ_ne_zero k
      obtain ⟨span, hspan⟩ := Option.ne_none_iff_exists'.mp hne
      have hcut := cutAt_of_innermost? hspan
      obtain ⟨hd, hc⟩ := hp (String.ofList span.content) s
      have hsp := hcut.splice hs hd hc
      have hcount := hsp.closedCount_eq span.after
      rw [← hcut.text_eq] at hcount
      obtain ⟨contents, h⟩ := ih _ (hsp.single (hcut.text_eq ▸ hs))
        (evaluate (String.ofList span.content) s).2 (by omega)
      exact ⟨_, h.of_splice exceeded hspan hcut hsp⟩

theorem Agrees.calls_eq {contents : List String} (h : Agrees exceeded evaluate text s contents) :
    calls evaluate text s = contents := by
  rw [calls, h.walk_eq, List.nil_append]

end Agrees

end Loop

end Substitution

open Substitution

/-! ## Texts -/

/-- Expanding substitutions is walking the text, each evaluated once and in the order of the walk,
up to the limit. -/
theorem expandSubstitutions_eq_walk {σ : Type} (evaluate : String → σ → String × σ) (limit : Int)
    (text : String) (s : σ) (hs : Single text.toList)
    (hp : ∀ content s,
      '$' ∉ (evaluate content s).1.toList ∧ ')' ∉ (evaluate content s).1.toList) :
    let exceeded := Fault.limit (.substitution limit)
    let walked := walk evaluate text.toList s
    let contents := calls evaluate text.toList s
    let allowed := contents.take limit.toNat
    contents.length = closedCount text.toList ∧
    (closedCount text.toList ≤ max 0 limit →
      expandSubstitutions exceeded (certain evaluate) limit text s =
        (.ok (String.ofList walked.1), walked.2) ∧
      expandSubstitutions exceeded (certain (recorded evaluate)) limit text (s, []) =
        (.ok (String.ofList walked.1), walked.2, contents)) ∧
    (max 0 limit < closedCount text.toList →
      expandSubstitutions exceeded (certain evaluate) limit text s =
        (.error exceeded, stateAfter evaluate allowed s) ∧
      expandSubstitutions exceeded (certain (recorded evaluate)) limit text (s, []) =
        (.error exceeded, stateAfter evaluate allowed s, allowed)) := by
  intro exceeded walked contents allowed
  obtain ⟨contents', h⟩ := exists_agrees exceeded hp text.toList hs s
  have hc : contents = contents' := h.calls_eq
  subst hc
  have hrun := h.expand_eq limit.toNat []
  have hplain := expand_recorded exceeded evaluate limit.toNat text.toList s []
  rw [hrun] at hplain
  rw [List.nil_append] at hrun
  refine ⟨h.length_eq, ?_, ?_⟩
  · intro hle
    have hn : closedCount text.toList ≤ limit.toNat := by omega
    have hall : contents.take limit.toNat = contents :=
      List.take_of_length_le (by rw [h.length_eq]; exact hn)
    rw [if_pos hn, hall, ← h.state_eq] at hrun hplain
    constructor
    · simp only [expandSubstitutions, hplain]
      rfl
    · simp only [expandSubstitutions, hrun]
      rfl
  · intro hlt
    have hn : ¬closedCount text.toList ≤ limit.toNat := by omega
    rw [if_neg hn] at hrun hplain
    constructor
    · simp only [expandSubstitutions, hplain]
      rfl
    · simp only [expandSubstitutions, hrun]
      rfl

/-- Two passes are too few for the three substitutions here, of which the outer one is evaluated
second. -/
theorem expandSubstitutions_eq_walk_nested :
    let evaluate := fun (_ : String) (n : Nat) => (if n = 0 then "" else "(y", n + 1)
    let text := "p $(q $(r)) $(s) $(t"
    Single text.toList ∧
    (∀ content n, '$' ∉ (evaluate content n).1.toList ∧ ')' ∉ (evaluate content n).1.toList) ∧
    max 0 (2 : Int) < closedCount text.toList ∧
    expandSubstitutions (Fault.limit (.substitution 2)) (certain (recorded evaluate)) 2 text
        (0, []) =
      (.error (Fault.limit (.substitution 2)),
        stateAfter evaluate ((calls evaluate text.toList 0).take 2) 0,
        (calls evaluate text.toList 0).take 2) := by
  intro evaluate text
  have ht : text.toList =
      ['p', ' ', '$', '(', 'q', ' ', '$', '(', 'r', ')', ')', ' ', '$', '(', 's', ')', ' ', '$',
        '(', 't'] := by
    simp [text]
  have hs : Single text.toList := by
    rw [ht, Single]
    decide
  have hp : ∀ content n,
      '$' ∉ (evaluate content n).1.toList ∧ ')' ∉ (evaluate content n).1.toList := by
    intro content n
    by_cases h : n = 0
    · simp [evaluate, h]
    · simp [evaluate, h]
  have hk : max 0 (2 : Int) < closedCount text.toList := by
    rw [ht]
    decide
  exact ⟨hs, hp, hk, ((expandSubstitutions_eq_walk evaluate 2 text 0 hs hp).2.2 hk).2⟩

/-- A text without closed openers is given back under any limit, so that a limit below zero is no
bound that such a text exceeds. -/
theorem not_exceeded_below_zero :
    ¬∀ (limit : Int) (text : String), Single text.toList → limit < closedCount text.toList →
      (expandSubstitutions (Fault.limit (.substitution limit))
        (certain fun (_ : String) (s : Unit) => ("", s)) limit text ()).1 =
        .error (.limit (.substitution limit)) := by
  intro h
  have ht : "p".toList = ['p'] := by simp
  have hs : Single "p".toList := by
    rw [ht, Single]
    decide
  have hk : closedCount "p".toList = 0 := by
    rw [ht]
    rfl
  have he := h (-1) "p" hs (by rw [hk]; decide)
  rw [expandSubstitutions, expand_of_none ((innermost?_eq_none_iff _).mpr hk)] at he
  cases he

end CommandShell.Syntax
