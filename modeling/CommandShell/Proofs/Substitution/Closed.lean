import CommandShell.Syntax.Substitution
import Mathlib.Data.List.Basic

/-! Where substitutions close, and what the search for the innermost one finds. A text is read up to
a seam and then on from there; only a dollar sign before a parenthesis could straddle the seam. -/

namespace CommandShell.Syntax.Substitution

/-- Whether a text and the one after it may be read apart: no opener lies across the two. -/
def Apart (before after : List Char) : Prop :=
  before.getLast? = some '$' → after.head? ≠ some '('

/-- How many openers of a text are closed. -/
def closedCount : List Char → Nat
  | [] => 0
  | '$' :: '(' :: rest => (if (closing 0 rest).isSome then 1 else 0) + closedCount rest
  | _ :: rest => closedCount rest

-- The equations are made here once, before many proofs ask for them at the same time.
attribute [grind =] closing holdsOpener innermost? closedCount

/-- A substitution as it stands in a text. -/
def bracket (content : List Char) : List Char :=
  '$' :: '(' :: (content ++ [')'])

/-- A text that neither opens nor closes a substitution. -/
structure Inert (text : List Char) : Prop where
  opens_nothing : holdsOpener text = false
  closes_nothing : ')' ∉ text

/-! ## One character at a time -/

section Character

variable {c : Char} {before after rest : List Char}

theorem Apart.tail (h : Apart (c :: before) after) : Apart before after := by
  cases before with
  | nil => simp [Apart]
  | cons d before => simpa [Apart] using h

theorem Apart.of_not_mem (h : '$' ∉ before) : Apart before after := by
  intro hl
  exact absurd (List.mem_of_getLast? hl) h

/-- A character that opens nothing still opens nothing when the text goes on. -/
theorem opens_nothing_append (ho : ∀ tail, c = '$' → before = '(' :: tail → False)
    (ha : Apart (c :: before) after) :
    ∀ tail, c = '$' → before ++ after = '(' :: tail → False := by
  intro tail hc ht
  cases before with
  | nil =>
      subst hc
      apply ha rfl
      rw [List.nil_append] at ht
      rw [ht]
      rfl
  | cons d before =>
      rw [List.cons_append, List.cons.injEq] at ht
      exact ho before hc (by rw [ht.1])

theorem closing_opener (depth : Nat) (rest : List Char) :
    closing depth ('$' :: '(' :: rest) =
      (closing (depth + 1) rest).map fun r => ('$' :: '(' :: r.1, r.2) := by
  cases depth <;> rfl

theorem closing_closer (depth : Nat) (rest : List Char) :
    closing (depth + 1) (')' :: rest) =
      (closing depth rest).map fun r => (')' :: r.1, r.2) := by
  simp [closing]

theorem closing_cons (depth : Nat) (hc : c ≠ ')')
    (ho : ∀ tail, c = '$' → rest = '(' :: tail → False) :
    closing depth (c :: rest) = (closing depth rest).map fun r => (c :: r.1, r.2) := by
  cases depth with
  | zero => rw [closing.eq_3 _ _ ho, if_neg hc]
  | succ depth => rw [closing.eq_4 _ _ _ ho, if_neg hc]

theorem innermost?_paren (rest : List Char) :
    innermost? ('(' :: rest) = (innermost? rest).map (Span.shift '(') := by
  simp [innermost?]

end Character

/-! ## Reading across a seam -/

/-- A text closes the current level in itself, or leaves some number of levels open from which the
text after it is read. -/
theorem closing_append (depth : Nat) (before : List Char) :
    (∃ content tail, closing depth before = some (content, tail) ∧
      ∀ after, closing depth (before ++ after) = some (content, tail ++ after)) ∨
    (closing depth before = none ∧ ∃ depth', ∀ after, Apart before after →
      closing depth (before ++ after) =
        (closing depth' after).map fun r => (before ++ r.1, r.2)) := by
  induction before using closedCount.induct generalizing depth with
  | case1 => exact .inr ⟨by simp [closing], depth, by simp⟩
  | case2 rest ih =>
      rcases ih (depth + 1) with ⟨content, tail, hc, hr⟩ | ⟨hc, depth', hr⟩
      · refine .inl ⟨'$' :: '(' :: content, tail, by simp [closing_opener, hc], ?_⟩
        intro after
        simp [closing_opener, hr]
      · refine .inr ⟨by simp [closing_opener, hc], depth', ?_⟩
        intro after ha
        simp [closing_opener, hr after ha.tail.tail, Option.map_map, Function.comp_def]
  | case3 c rest ho ih =>
      by_cases hp : c = ')'
      · subst hp
        cases depth with
        | zero => exact .inl ⟨[], rest, by simp [closing], by simp [closing]⟩
        | succ depth =>
            rcases ih depth with ⟨content, tail, hc, hr⟩ | ⟨hc, depth', hr⟩
            · refine .inl ⟨')' :: content, tail, by simp [closing_closer, hc], ?_⟩
              intro after
              simp [closing_closer, hr]
            · refine .inr ⟨by simp [closing_closer, hc], depth', ?_⟩
              intro after ha
              simp [closing_closer, hr after ha.tail, Option.map_map, Function.comp_def]
      · rcases ih depth with ⟨content, tail, hc, hr⟩ | ⟨hc, depth', hr⟩
        · have hne : rest ≠ [] := by
            rintro rfl
            simp [closing] at hc
          refine .inl ⟨c :: content, tail, by simp [closing_cons depth hp ho, hc], ?_⟩
          intro after
          have ho' : ∀ tail, c = '$' → rest ++ after = '(' :: tail → False := by
            intro tail' hd ht
            obtain ⟨d, rest', rfl⟩ := List.exists_cons_of_ne_nil hne
            rw [List.cons_append, List.cons.injEq] at ht
            exact ho rest' hd (by rw [ht.1])
          rw [List.cons_append, closing_cons depth hp ho', hr after, Option.map_some]
        · refine .inr ⟨by simp [closing_cons depth hp ho, hc], depth', ?_⟩
          intro after ha
          rw [List.cons_append, closing_cons depth hp (opens_nothing_append ho ha),
            hr after ha.tail]
          simp [Option.map_map, Function.comp_def]

/-- What closes a deeper level closes a shallower one on the way. -/
theorem isSome_closing_of_succ {depth : Nat} {text : List Char}
    (h : (closing (depth + 1) text).isSome) : (closing depth text).isSome := by
  induction text using closedCount.induct generalizing depth with
  | case1 => simp [closing] at h
  | case2 rest ih =>
      rw [closing_opener, Option.isSome_map] at h ⊢
      exact ih h
  | case3 c rest ho ih =>
      by_cases hp : c = ')'
      · subst hp
        cases depth with
        | zero => simp [closing]
        | succ depth =>
            rw [closing_closer, Option.isSome_map] at h ⊢
            exact ih h
      · rw [closing_cons _ hp ho, Option.isSome_map] at h ⊢
        exact ih h

theorem isSome_closing_zero {depth : Nat} {text : List Char}
    (h : (closing depth text).isSome) : (closing 0 text).isSome := by
  induction depth with
  | zero => exact h
  | succ depth ih => exact ih (isSome_closing_of_succ h)

theorem eq_of_closing {depth : Nat} {text content after : List Char}
    (h : closing depth text = some (content, after)) : text = content ++ ')' :: after := by
  induction text using closedCount.induct generalizing depth content after with
  | case1 => simp [closing] at h
  | case2 rest ih =>
      rw [closing_opener, Option.map_eq_some_iff] at h
      obtain ⟨r, hr, he⟩ := h
      cases he
      rw [ih hr]
      rfl
  | case3 c rest ho ih =>
      by_cases hp : c = ')'
      · subst hp
        cases depth with
        | zero =>
            simp only [closing, ↓reduceIte, Option.some.injEq, Prod.mk.injEq] at h
            rw [← h.1, ← h.2]
            rfl
        | succ depth =>
            rw [closing_closer, Option.map_eq_some_iff] at h
            obtain ⟨r, hr, he⟩ := h
            cases he
            rw [ih hr]
            rfl
      · rw [closing_cons _ hp ho, Option.map_eq_some_iff] at h
        obtain ⟨r, hr, he⟩ := h
        cases he
        rw [ih hr]
        rfl

/-- An opener inside a closed level is closed itself. -/
theorem closedCount_pos {depth : Nat} {text content after : List Char}
    (h : closing depth text = some (content, after)) (ho : holdsOpener content = true) :
    0 < closedCount text := by
  induction text using closedCount.induct generalizing depth content after with
  | case1 => simp [closing] at h
  | case2 rest ih =>
      rw [closing_opener, Option.map_eq_some_iff] at h
      obtain ⟨r, hr, -⟩ := h
      have hs : (closing 0 rest).isSome := isSome_closing_zero (by rw [hr]; rfl)
      rw [closedCount, if_pos hs]
      omega
  | case3 c rest hn ih =>
      rw [closedCount.eq_3 _ _ hn]
      by_cases hp : c = ')'
      · subst hp
        cases depth with
        | zero =>
            simp only [closing, ↓reduceIte, Option.some.injEq, Prod.mk.injEq] at h
            simp [← h.1, holdsOpener] at ho
        | succ depth =>
            rw [closing_closer, Option.map_eq_some_iff] at h
            obtain ⟨r, hr, he⟩ := h
            cases he
            exact ih hr (by simpa [holdsOpener] using ho)
      · rw [closing_cons _ hp hn, Option.map_eq_some_iff] at h
        obtain ⟨r, hr, he⟩ := h
        cases he
        apply ih hr
        rwa [holdsOpener.eq_3] at ho
        intro tail hc ht
        exact hn _ hc (by rw [eq_of_closing hr, ht]; rfl)

/-! ## Inert texts -/

namespace Inert

theorem tail {c : Char} {rest : List Char} (h : Inert (c :: rest)) : Inert rest := by
  refine ⟨?_, fun hm => h.closes_nothing (List.mem_cons_of_mem c hm)⟩
  have ho := h.opens_nothing
  unfold holdsOpener at ho
  split at ho
  · contradiction
  · simp at ho
  · rename_i heq
    cases heq
    exact ho

theorem not_opener {c : Char} {rest : List Char} (h : Inert (c :: rest)) :
    ∀ tail, c = '$' → rest = '(' :: tail → False := by
  rintro tail rfl rfl
  simpa [holdsOpener] using h.opens_nothing

theorem of_not_mem {text : List Char} (hd : '$' ∉ text) (hp : ')' ∉ text) : Inert text := by
  refine ⟨?_, hp⟩
  induction text with
  | nil => rfl
  | cons c rest ih =>
      simp only [List.mem_cons, not_or] at hd hp
      rw [holdsOpener.eq_3 _ _ fun _ hc _ => hd.1 hc.symm]
      exact ih hd.2 hp.2

/-- An inert text is passed over. -/
theorem closing_append {text after : List Char} (h : Inert text) (ha : Apart text after)
    (depth : Nat) :
    closing depth (text ++ after) = (closing depth after).map fun r => (text ++ r.1, r.2) := by
  induction text with
  | nil => simp
  | cons c rest ih =>
      have hp : c ≠ ')' := fun hc => h.closes_nothing (by simp [hc])
      rw [List.cons_append, closing_cons depth hp (opens_nothing_append h.not_opener ha),
        ih h.tail ha.tail]
      simp [Option.map_map, Function.comp_def]

theorem closedCount_append {text after : List Char} (h : Inert text) (ha : Apart text after) :
    closedCount (text ++ after) = closedCount after := by
  induction text with
  | nil => rfl
  | cons c rest ih =>
      rw [List.cons_append, closedCount.eq_3 _ _ (opens_nothing_append h.not_opener ha),
        ih h.tail ha.tail]

end Inert

theorem apart_closer (before after : List Char) : Apart before (')' :: after) := by
  simp [Apart]

/-- A substitution with inert content is passed over as a whole. -/
theorem closing_bracket {content : List Char} (h : Inert content) (depth : Nat)
    (after : List Char) :
    closing depth (bracket content ++ after) =
      (closing depth after).map fun r => (bracket content ++ r.1, r.2) := by
  have hc := h.closing_append (apart_closer content after) (depth + 1)
  simp [bracket, closing_opener, hc, closing_closer, Option.map_map, Function.comp_def]

theorem closing_content {content : List Char} (h : Inert content) (after : List Char) :
    closing 0 (content ++ ')' :: after) = some (content, after) := by
  rw [h.closing_append (apart_closer _ _)]
  simp [closing]

/-! ## The search -/

theorem inert_of_closing {text content after : List Char}
    (h : closing 0 text = some (content, after)) (ho : holdsOpener content = false) :
    Inert content := by
  refine ⟨ho, ?_⟩
  induction text using closedCount.induct generalizing content after with
  | case1 => simp [closing] at h
  | case2 rest ih =>
      rw [closing_opener, Option.map_eq_some_iff] at h
      obtain ⟨r, -, he⟩ := h
      cases he
      simp [holdsOpener] at ho
  | case3 c rest hn ih =>
      by_cases hp : c = ')'
      · subst hp
        simp only [closing, ↓reduceIte, Option.some.injEq, Prod.mk.injEq] at h
        simp [← h.1]
      · rw [closing_cons _ hp hn, Option.map_eq_some_iff] at h
        obtain ⟨r, hr, he⟩ := h
        cases he
        rw [holdsOpener.eq_3] at ho
        · exact List.not_mem_cons_of_ne_of_not_mem (Ne.symm hp) (ih hr ho)
        · intro tail hc ht
          exact hn _ hc (by rw [eq_of_closing hr, ht]; rfl)

/-- The search either stops at an opener that is closed over an inert content, or goes on. -/
theorem innermost?_opener (rest : List Char) :
    (∃ content after, closing 0 rest = some (content, after) ∧ Inert content ∧
      innermost? ('$' :: '(' :: rest) = some ⟨[], content, after⟩) ∨
    ((∀ content after, closing 0 rest = some (content, after) → holdsOpener content = true) ∧
      innermost? ('$' :: '(' :: rest) =
        (innermost? rest).map fun span => { span with before := '$' :: '(' :: span.before }) := by
  have hs : (innermost? ('(' :: rest)).map (Span.shift '$') =
      (innermost? rest).map fun span => { span with before := '$' :: '(' :: span.before } := by
    rw [innermost?_paren, Option.map_map]
    rfl
  cases hc : closing 0 rest with
  | none => exact .inr ⟨by simp, by rw [innermost?.eq_2, hc, ← hs]⟩
  | some r =>
      obtain ⟨content, after⟩ := r
      cases ho : holdsOpener content with
      | false =>
          exact .inl ⟨content, after, rfl, inert_of_closing hc ho, by simp [innermost?, hc, ho]⟩
      | true =>
          refine .inr ⟨?_, by rw [innermost?.eq_2, hc]; simpa [ho] using hs⟩
          rintro content' after' ⟨⟩
          exact ho

/-- A text is cut at its first substitution that is closed and holds no other. -/
structure CutAt (text : List Char) (span : Span) : Prop where
  text_eq : text = span.before ++ (bracket span.content ++ span.after)
  inert : Inert span.content
  before_open : closedCount span.before = 0

theorem cutAt_of_innermost? {text : List Char} {span : Span} (h : innermost? text = some span) :
    CutAt text span := by
  induction text using closedCount.induct generalizing span with
  | case1 => simp [innermost?] at h
  | case2 rest ih =>
      rcases innermost?_opener rest with ⟨content, after, hc, hi, he⟩ | ⟨hn, he⟩
      · rw [he, Option.some.injEq] at h
        subst h
        exact ⟨by simp [eq_of_closing hc, bracket], hi, rfl⟩
      · rw [he, Option.map_eq_some_iff] at h
        obtain ⟨span, hs, rfl⟩ := h
        have hcut := ih hs
        refine ⟨by rw [hcut.text_eq]; rfl, hcut.inert, ?_⟩
        have hb : closing 0 span.before = none := by
          rcases closing_append 0 span.before with ⟨content, tail, hc, hr⟩ | ⟨hc, -⟩
          · have ht := hr (bracket span.content ++ span.after)
            rw [← hcut.text_eq] at ht
            have hpos := closedCount_pos hc (hn content _ ht)
            rw [hcut.before_open] at hpos
            contradiction
          · exact hc
        simp [closedCount, hb, hcut.before_open]
  | case3 c rest ho ih =>
      rw [innermost?.eq_3 _ _ ho, Option.map_eq_some_iff] at h
      obtain ⟨span, hs, rfl⟩ := h
      have hcut := ih hs
      refine ⟨?_, hcut.inert, ?_⟩
      · simp only [Span.shift, List.cons_append]
        rw [← hcut.text_eq]
      · simp only [Span.shift]
        rw [closedCount.eq_3 _ _ ?_, hcut.before_open]
        intro tail hc ht
        exact ho _ hc (by rw [hcut.text_eq, ht]; rfl)

theorem innermost?_eq_none_iff (text : List Char) :
    innermost? text = none ↔ closedCount text = 0 := by
  induction text using closedCount.induct with
  | case1 => simp [innermost?, closedCount]
  | case2 rest ih =>
      rcases innermost?_opener rest with ⟨content, after, hc, -, he⟩ | ⟨hn, he⟩
      · simp [he, closedCount, hc]
      · rw [he, Option.map_eq_none_iff, ih]
        cases hc : closing 0 rest with
        | none => simp [closedCount, hc]
        | some r =>
            have hpos := closedCount_pos hc (hn r.1 r.2 hc)
            simp only [closedCount, hc, Option.isSome_some, ↓reduceIte]
            omega
  | case3 c rest ho ih => rw [innermost?.eq_3 _ _ ho, Option.map_eq_none_iff, ih,
      closedCount.eq_3 _ _ ho]

end CommandShell.Syntax.Substitution
