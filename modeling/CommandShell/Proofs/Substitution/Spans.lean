import CommandShell.Proofs.Substitution.Closed
import CommandShell.Text.Blank
import Mathlib.Data.List.TakeWhile

/-! Where the closed substitutions of a text stand. A level that is closed, and blanks at the ends of
a text, leave the places of all others as they are. -/

namespace CommandShell

namespace Text.Chars

/-- A text is its trim part between blanks. -/
theorem exists_eq_trim (cs : List Char) :
    ∃ right, right.all isBlank = true ∧ cs = cs.takeWhile isBlank ++ (trim cs ++ right) := by
  refine ⟨((trimLeft cs).reverse.takeWhile isBlank).reverse, by simp, ?_⟩
  rw [trim, trimRight, ← List.reverse_append, List.takeWhile_append_dropWhile,
    List.reverse_reverse, trimLeft, List.takeWhile_append_dropWhile]

end Text.Chars

namespace Syntax.Substitution

/-- The places of the closed openers of a text, and of the parentheses that close them. The text
begins at a place of its own. -/
def spans : Nat → List Char → List (Nat × Nat)
  | _, [] => []
  | start, '$' :: '(' :: rest =>
      ((closing 0 rest).map fun r => (start, start + 2 + r.1.length)).toList
        ++ spans (start + 2) rest
  | start, _ :: rest => spans (start + 1) rest

/-- A character that opens nothing moves the spans behind it. -/
theorem spans_cons {c : Char} {rest : List Char} (ho : ∀ tail, c = '$' → rest = '(' :: tail → False)
    (start : Nat) : spans start (c :: rest) = spans (start + 1) rest :=
  spans.eq_3 start c rest ho

/-- Every opener of a text is closed. -/
def EveryClosed (text : List Char) : Prop :=
  ∀ before rest, text = before ++ '$' :: '(' :: rest → (closing 0 rest).isSome

section Level

variable {text rest content after : List Char} {depth : Nat}

/-- A level is closed by the same parenthesis whatever follows it. -/
theorem closing_replace (h : closing depth text = some (content, after)) (other : List Char) :
    closing depth (content ++ ')' :: other) = some (content, other) := by
  have hs : ∀ later : List Char, content ++ ')' :: later = (content ++ [')']) ++ later := by simp
  have ht := eq_of_closing h
  subst ht
  rw [hs] at h ⊢
  rcases closing_append depth (content ++ [')']) with ⟨content', tail, -, hr⟩ | ⟨-, depth', hr⟩
  · have he := hr after
    rw [h, Option.some.injEq, Prod.mk.injEq] at he
    have htail : tail = [] := List.self_eq_append_left.mp he.2
    rw [hr other, ← he.1, htail]
    rfl
  · rw [hr after (by simp [Apart]), Option.map_eq_some_iff] at h
    obtain ⟨r, -, he⟩ := h
    have hl := congrArg (fun p => p.1.length) he
    simp at hl

/-- The content of a deeper level closes a shallower one. -/
theorem isSome_closing_content (h : closing (depth + 1) text = some (content, after)) :
    (closing depth content).isSome := by
  induction text using closedCount.induct generalizing depth content with
  | case1 => simp [closing] at h
  | case2 rest ih =>
      rw [closing_opener, Option.map_eq_some_iff] at h
      obtain ⟨r, hr, he⟩ := h
      cases he
      rw [closing_opener, Option.isSome_map]
      exact ih hr
  | case3 c rest ho ih =>
      by_cases hp : c = ')'
      · subst hp
        rw [closing_closer, Option.map_eq_some_iff] at h
        obtain ⟨r, hr, he⟩ := h
        cases he
        cases depth with
        | zero => simp [closing]
        | succ depth =>
            rw [closing_closer, Option.isSome_map]
            exact ih hr
      · rw [closing_cons _ hp ho, Option.map_eq_some_iff] at h
        obtain ⟨r, hr, he⟩ := h
        cases he
        have ho' : ∀ tail, c = '$' → r.1 = '(' :: tail → False := by
          intro tail hc ht
          exact ho _ hc (by rw [eq_of_closing hr, ht]; rfl)
        rw [closing_cons _ hp ho', Option.isSome_map]
        exact ih hr

/-- An opener inside a closed level is closed by the same parenthesis in the content alone. -/
theorem closing_inside (h : closing (depth + 1) text = some (content, after)) :
    (closing 0 text).map Prod.fst = (closing 0 content).map Prod.fst := by
  rcases closing_append 0 content with ⟨inner, tail, hc, hr⟩ | ⟨hc, -⟩
  · rw [eq_of_closing h, hr, hc]
    rfl
  · have hs := isSome_closing_zero (isSome_closing_content h)
    rw [hc] at hs
    contradiction

/-- The spans of a text are those in a level that it closes, and those behind it. -/
theorem spans_closing (h : closing depth text = some (content, after)) (start : Nat) :
    spans start text = spans start content ++ spans (start + content.length + 1) after := by
  induction text using closedCount.induct generalizing depth content start with
  | case1 => simp [closing] at h
  | case2 rest ih =>
      rw [closing_opener, Option.map_eq_some_iff] at h
      obtain ⟨r, hr, he⟩ := h
      cases he
      have hi : (closing 0 rest).map (fun q => (start, start + 2 + q.1.length)) =
          (closing 0 r.1).map (fun q => (start, start + 2 + q.1.length)) := by
        have hm := congrArg (Option.map fun q => (start, start + 2 + q.length)) (closing_inside hr)
        simpa only [Option.map_map, Function.comp_def] using hm
      rw [spans, spans, ih hr, hi, List.append_assoc]
      congr 3
      simp only [List.length_cons]
      omega
  | case3 c rest ho ih =>
      rw [spans_cons ho]
      have hl : ∀ n, start + 1 + n = start + (n + 1) := by omega
      by_cases hp : c = ')'
      · subst hp
        cases depth with
        | zero =>
            simp only [closing, ↓reduceIte, Option.some.injEq, Prod.mk.injEq] at h
            rw [← h.1, ← h.2]
            rfl
        | succ depth =>
            rw [closing_closer, Option.map_eq_some_iff] at h
            obtain ⟨r, hr, he⟩ := h
            cases he
            rw [ih hr, spans_cons (by simp), List.length_cons, hl]
      · rw [closing_cons _ hp ho, Option.map_eq_some_iff] at h
        obtain ⟨r, hr, he⟩ := h
        cases he
        have ho' : ∀ tail, c = '$' → r.1 = '(' :: tail → False := by
          intro tail hc ht
          exact ho _ hc (by rw [eq_of_closing hr, ht]; rfl)
        rw [ih hr, spans_cons ho', List.length_cons, hl]

theorem spans_substitution (h : closing 0 rest = some (content, after)) (start : Nat) :
    spans start ('$' :: '(' :: rest) =
      (start, start + 2 + content.length) ::
        (spans (start + 2) content ++ spans (start + 2 + content.length + 1) after) := by
  rw [spans, spans_closing h, h]
  rfl

/-- A text is read outside of all levels: a substitution is passed over as a whole, an opener that is
not closed keeps all that follows it, and any other character stands by itself. -/
theorem outside_induction {motive : List Char → Prop} (nil : motive [])
    (closed : ∀ rest content after, closing 0 rest = some (content, after) → motive after →
      motive ('$' :: '(' :: rest))
    (unclosed : ∀ rest, closing 0 rest = none → motive ('$' :: '(' :: rest))
    (cons : ∀ c rest, (∀ tail, c = '$' → rest = '(' :: tail → False) → motive rest →
      motive (c :: rest)) (text : List Char) : motive text := by
  induction hn : text.length using Nat.strongRecOn generalizing text with
  | _ n ih =>
      cases text using closedCount.fun_cases with
      | case1 => exact nil
      | case2 rest =>
          cases hc : closing 0 rest with
          | none => exact unclosed rest hc
          | some r =>
              obtain ⟨content, after⟩ := r
              refine closed rest content after hc (ih after.length ?_ after rfl)
              rw [← hn, eq_of_closing hc]
              simp
              omega
      | case3 c rest ho => exact cons c rest ho (ih rest.length (by simp [← hn]) rest rfl)

end Level

/-! ## Blank ends -/

section Inert

variable {text after : List Char}

theorem Inert.closing_eq_none (h : Inert text) (depth : Nat) : closing depth text = none := by
  have ha : Apart text [] := by simp [Apart]
  simpa [closing] using h.closing_append ha depth

theorem Inert.spans_append (h : Inert text) (ha : Apart text after) (start : Nat) :
    spans start (text ++ after) = spans (start + text.length) after := by
  induction text generalizing start with
  | nil => rfl
  | cons c rest ih =>
      rw [List.cons_append, spans_cons (opens_nothing_append h.not_opener ha),
        ih h.tail ha.tail, List.length_cons, Nat.add_assoc, Nat.add_comm 1]

theorem Inert.spans_eq_nil (h : Inert text) (start : Nat) : spans start text = [] := by
  have ha : Apart text [] := by simp [Apart]
  simpa [spans] using h.spans_append ha start

/-- What closes nothing closes nothing behind a text either. -/
theorem spans_append_inert (h : Inert after) (ha : Apart text after) (start : Nat) :
    spans start (text ++ after) = spans start text := by
  induction text using closedCount.induct generalizing start with
  | case1 => exact h.spans_eq_nil start
  | case2 rest ih =>
      have hc : (closing 0 (rest ++ after)).map Prod.fst = (closing 0 rest).map Prod.fst := by
        rcases closing_append 0 rest with ⟨content, tail, hc, hr⟩ | ⟨hc, depth, hr⟩
        · rw [hr, hc]
          rfl
        · rw [hr after ha.tail.tail, hc, h.closing_eq_none]
          rfl
      have hm := congrArg (Option.map fun content => (start, start + 2 + content.length)) hc
      simp only [Option.map_map, Function.comp_def] at hm
      rw [List.cons_append, List.cons_append, spans, spans, hm, ih ha.tail.tail]
  | case3 c rest ho ih =>
      rw [List.cons_append, spans_cons (opens_nothing_append ho ha), spans_cons ho,
        ih ha.tail]

theorem Inert.of_blank (h : text.all Text.isBlank = true) : Inert text := by
  rw [List.all_eq_true] at h
  exact .of_not_mem (fun hd => absurd (h '$' hd) (by decide))
    (fun hp => absurd (h ')' hp) (by decide))

/-- Trimming moves the head of a text, and leaves its spans where they are. -/
theorem spans_trim (start : Nat) (text : List Char) :
    spans start text =
      spans (start + (text.takeWhile Text.isBlank).length) (Text.Chars.trim text) := by
  obtain ⟨right, hr, ht⟩ := Text.Chars.exists_eq_trim text
  have hl : Inert (text.takeWhile Text.isBlank) := .of_blank (by simp)
  have hd : '$' ∉ text.takeWhile Text.isBlank :=
    fun hm => absurd (List.mem_takeWhile_imp hm) (by decide)
  have ha : Apart (Text.Chars.trim text) right := by
    intro _ hp
    exact absurd (List.all_eq_true.mp hr '(' (List.mem_of_mem_head? hp)) (by decide)
  conv_lhs => rw [ht]
  rw [hl.spans_append (.of_not_mem hd), spans_append_inert (.of_blank hr) ha]

end Inert

/-! ## Bounds -/

theorem bounds_of_mem_spans {start i j : Nat} {text : List Char} (h : (i, j) ∈ spans start text) :
    start ≤ i ∧ i < j ∧ j < start + text.length := by
  induction text using closedCount.induct generalizing start with
  | case1 => simp [spans] at h
  | case2 rest ih =>
      simp only [spans, List.mem_append, Option.mem_toList, Option.map_eq_some_iff,
        Prod.mk.injEq] at h
      simp only [List.length_cons]
      rcases h with ⟨r, hr, rfl, rfl⟩ | h
      · have hl := congrArg List.length (eq_of_closing hr)
        simp only [List.length_append, List.length_cons] at hl
        omega
      · have hb := ih h
        omega
  | case3 c rest ho ih =>
      rw [spans_cons ho] at h
      have hb := ih h
      simp only [List.length_cons]
      omega

theorem EveryClosed.of_append {before after : List Char} (h : EveryClosed (before ++ after)) :
    EveryClosed after :=
  fun later rest he => h (before ++ later) rest (by rw [he, List.append_assoc])

theorem EveryClosed.tail {c : Char} {rest : List Char} (h : EveryClosed (c :: rest)) :
    EveryClosed rest :=
  fun before rest he => h (c :: before) rest (by rw [he, List.cons_append])

end Syntax.Substitution

end CommandShell
