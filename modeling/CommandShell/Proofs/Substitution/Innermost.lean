import CommandShell.Proofs.Execution.Failure
import CommandShell.Proofs.Substitution.Closed
import CommandShell.Proofs.Text.Encoding
import Mathlib.Data.Nat.Find

/-!
What the search for the innermost substitution finds, place by place: the first opener that is
closed with neither an opener nor a closing parenthesis in between. There is one as soon as a closing
parenthesis stands behind any opener, so that a text whose substitutions are expanded has none.
-/

namespace CommandShell

namespace Syntax.Substitution

/-! ## Openers and closing parentheses -/

section Search

variable {text before content rest after : List Char}

theorem holdsOpener_iff :
    holdsOpener text = true ↔ ∃ before after, text = before ++ '$' :: '(' :: after := by
  constructor
  · intro h
    induction text using closedCount.induct with
    | case1 => simp [holdsOpener] at h
    | case2 rest => exact ⟨[], rest, rfl⟩
    | case3 c rest ho ih =>
        rw [holdsOpener.eq_3 _ _ ho] at h
        obtain ⟨before, after, rfl⟩ := ih h
        exact ⟨c :: before, after, rfl⟩
  · rintro ⟨before, after, rfl⟩
    by_contra hn
    have hi : ∀ cs : List Char, holdsOpener (cs ++ '$' :: '(' :: after) = true := by
      intro cs
      induction cs using closedCount.induct with
      | case1 => rfl
      | case2 rest => rfl
      | case3 c rest ho ih =>
          rw [List.cons_append, holdsOpener.eq_3, ih]
          exact opens_nothing_append ho (by simp [Apart])
    exact hn (hi before)

theorem inert_iff : Inert text ↔
    (¬∃ before after, text = before ++ '$' :: '(' :: after) ∧
      ¬∃ before after, text = before ++ ')' :: after := by
  rw [← holdsOpener_iff, Bool.not_eq_true, ← List.mem_iff_append]
  exact ⟨fun h => ⟨h.opens_nothing, h.closes_nothing⟩, fun h => ⟨h.1, h.2⟩⟩

/-- A closing parenthesis closes what is read before it, or an opener in there. -/
theorem closing_or_closed (h : ')' ∈ rest) : (closing 0 rest).isSome ∨ 0 < closedCount rest := by
  induction rest using closedCount.induct with
  | case1 => simp at h
  | case2 rest ih =>
      have hm : ')' ∈ rest := by simpa using h
      rw [closedCount]
      rcases ih hm with hs | hp
      · rw [if_pos hs]
        exact .inr (by omega)
      · exact .inr (by omega)
  | case3 c rest ho ih =>
      rw [closedCount.eq_3 _ _ ho]
      by_cases hc : c = ')'
      · subst hc
        exact .inl (by simp [closing])
      · rw [closing_cons 0 hc ho, Option.isSome_map]
        exact ih ((List.mem_cons.mp h).resolve_left (Ne.symm hc))

theorem closedCount_le_append (ha : Apart before after) :
    closedCount after ≤ closedCount (before ++ after) := by
  induction before using closedCount.induct with
  | case1 => exact Nat.le_refl _
  | case2 rest ih =>
      rw [List.cons_append, List.cons_append, closedCount]
      exact Nat.le_add_left_of_le (ih ha.tail.tail)
  | case3 c rest ho ih =>
      rw [List.cons_append, closedCount.eq_3 _ _ (opens_nothing_append ho ha)]
      exact ih ha.tail

/-- Some opener is closed as soon as a closing parenthesis stands behind any. -/
theorem closedCount_pos_iff :
    0 < closedCount text ↔
      ∃ before between after, text = before ++ '$' :: '(' :: (between ++ ')' :: after) := by
  constructor
  · intro h
    have hn : innermost? text ≠ none := fun hn =>
      absurd ((innermost?_eq_none_iff text).mp hn) (Nat.ne_of_gt h)
    obtain ⟨span, hs⟩ := Option.ne_none_iff_exists'.mp hn
    exact ⟨span.before, span.content, span.after, by
      simpa [bracket] using (cutAt_of_innermost? hs).text_eq⟩
  · rintro ⟨before, between, after, rfl⟩
    refine Nat.lt_of_lt_of_le ?_ (closedCount_le_append (by simp [Apart]))
    rw [closedCount]
    have hm : ')' ∈ between ++ ')' :: after := by simp
    rcases closing_or_closed hm with hs | hp
    · rw [if_pos hs]
      omega
    · omega

/-- Where a text is cut is where the search stops: an opener before that is not closed without the
substitution, and with it holds another one. -/
theorem innermost?_of_cutAt {span : Span} (h : CutAt text span) : innermost? text = some span := by
  obtain ⟨before, content, after⟩ := span
  obtain ⟨rfl, hi, hb⟩ := h
  simp only at hi hb ⊢
  induction before using closedCount.induct with
  | case1 =>
      rcases innermost?_opener (content ++ ')' :: after) with ⟨c, a, hc, -, he⟩ | ⟨hn, -⟩
      · rw [closing_content hi, Option.some.injEq, Prod.mk.injEq] at hc
        obtain ⟨rfl, rfl⟩ := hc
        simpa [bracket] using he
      · have ho := hn content after (closing_content hi after)
        rw [hi.opens_nothing] at ho
        contradiction
  | case2 rest ih =>
      rw [closedCount, Nat.add_eq_zero_iff] at hb
      have ho : closing 0 rest = none := by
        cases hc : closing 0 rest with
        | none => rfl
        | some r => simp [hc] at hb
      rcases innermost?_opener (rest ++ (bracket content ++ after)) with
        ⟨c, a, hc, hin, -⟩ | ⟨-, he⟩
      · rcases closing_append 0 rest with ⟨c', tail, hc', -⟩ | ⟨-, depth, hr⟩
        · rw [ho] at hc'
          contradiction
        · rw [hr _ (by simp [Apart, bracket]), closing_bracket hi, Option.map_map,
            Option.map_eq_some_iff] at hc
          obtain ⟨r, -, he⟩ := hc
          cases he
          exact absurd ⟨rest, content ++ ')' :: r.1, by simp [bracket]⟩ (inert_iff.mp hin).1
      · rw [List.cons_append, List.cons_append, he, ih hb.2]
        rfl
  | case3 c rest ho ih =>
      rw [closedCount.eq_3 _ _ ho] at hb
      rw [List.cons_append, innermost?.eq_3, ih hb]
      · rfl
      · exact opens_nothing_append ho (by simp [Apart, bracket])

end Search

/-! ## Places -/

/-- An opener stands at a place of a text, which is given by its code points. -/
def OpensAt (codes : List Nat) (i : Nat) : Prop :=
  codes[i]? = some '$'.toNat ∧ codes[i + 1]? = some '('.toNat

/-- A closing parenthesis stands at a place of a text. -/
def ClosesAt (codes : List Nat) (j : Nat) : Prop :=
  codes[j]? = some ')'.toNat

/-- An opener and a closing parenthesis behind it, with neither of the two in between. -/
structure IsInnermost (codes : List Nat) (i j : Nat) : Prop where
  opens : OpensAt codes i
  closes : ClosesAt codes j
  behind : i + 2 ≤ j
  no_opener : ∀ k, i + 1 < k → k + 1 < j → ¬OpensAt codes k
  no_closer : ∀ k, i + 1 < k → k < j → ¬ClosesAt codes k

/-- No closing parenthesis stands behind an opener. -/
def Expanded (codes : List Nat) : Prop :=
  ∀ i j, OpensAt codes i → ClosesAt codes j → ¬i < j

section Places

variable {codes before content after : List Nat} {i j k : Nat} {cs : List Char}

theorem exists_of_getElem? {n : Nat} (h : codes[i]? = some n) :
    ∃ before after, codes = before ++ n :: after ∧ before.length = i := by
  obtain ⟨hi, hn⟩ := List.getElem?_eq_some_iff.mp h
  refine ⟨codes.take i, codes.drop (i + 1), ?_, List.length_take_of_le (Nat.le_of_lt hi)⟩
  rw [← hn, List.getElem_cons_drop, List.take_append_drop]

theorem exists_of_opensAt (h : OpensAt codes i) :
    ∃ before after, codes = before ++ '$'.toNat :: '('.toNat :: after ∧ before.length = i := by
  obtain ⟨before, after, rfl, rfl⟩ := exists_of_getElem? h.1
  obtain ⟨rest, rfl⟩ : ∃ rest, after = '('.toNat :: rest := by
    have hp := h.2
    rw [List.getElem?_append_right (Nat.le_succ _)] at hp
    cases after with
    | nil => simp at hp
    | cons n rest => exact ⟨rest, by simpa using hp⟩
  exact ⟨before, rest, rfl, rfl⟩

/-- Places behind an opener are places of what stands there. -/
theorem getElem?_behind {a b : Nat} {rest : List Nat} (k : Nat) :
    (before ++ a :: b :: rest)[before.length + 2 + k]? = rest[k]? := by
  rw [Nat.add_assoc, Nat.add_comm 2 k, List.getElem?_append_right (Nat.le_add_right _ _),
    Nat.add_sub_cancel_left]
  rfl

theorem closesAt_inside {a b : Nat} {rest : List Nat} (hk : k < content.length) :
    ClosesAt (before ++ a :: b :: (content ++ rest)) (before.length + 2 + k) ↔
      ClosesAt content k := by
  rw [ClosesAt, ClosesAt, getElem?_behind, List.getElem?_append_left hk]

theorem opensAt_inside {a b : Nat} {rest : List Nat} (hk : k + 1 < content.length) :
    OpensAt (before ++ a :: b :: (content ++ rest)) (before.length + 2 + k) ↔
      OpensAt content k := by
  rw [OpensAt, OpensAt, Nat.add_assoc _ k 1, getElem?_behind, getElem?_behind,
    List.getElem?_append_left hk, List.getElem?_append_left (Nat.lt_of_succ_lt hk)]

theorem lt_length_of_closesAt (h : ClosesAt codes k) : k < codes.length :=
  (List.getElem?_eq_some_iff.mp h).1

theorem lt_length_of_opensAt (h : OpensAt codes k) : k + 1 < codes.length :=
  (List.getElem?_eq_some_iff.mp h.2).1

/-- The places of an innermost substitution are those of its ends in some cut of the text. -/
theorem isInnermost_iff :
    IsInnermost codes i j ↔
      ∃ before content after,
        codes = before ++ '$'.toNat :: '('.toNat :: (content ++ ')'.toNat :: after) ∧
        before.length = i ∧ i + 2 + content.length = j ∧
        (∀ k, ¬OpensAt content k) ∧ ∀ k, ¬ClosesAt content k := by
  constructor
  · intro h
    obtain ⟨before, rest, rfl, rfl⟩ := exists_of_opensAt h.opens
    obtain ⟨m, rfl⟩ := Nat.exists_eq_add_of_le h.behind
    have hc := h.closes
    rw [ClosesAt, getElem?_behind] at hc
    obtain ⟨content, after, rfl, rfl⟩ := exists_of_getElem? hc
    refine ⟨before, content, after, rfl, rfl, rfl, fun k hk => ?_, fun k hk => ?_⟩
    · have hl := lt_length_of_opensAt hk
      exact h.no_opener _ (by omega) (by omega) ((opensAt_inside hl).mpr hk)
    · have hl := lt_length_of_closesAt hk
      exact h.no_closer _ (by omega) (by omega) ((closesAt_inside hl).mpr hk)
  · rintro ⟨before, content, after, rfl, rfl, rfl, ho, hc⟩
    refine ⟨by simp [OpensAt], ?_, Nat.le_add_right _ _, fun k hk hlt => ?_, fun k hk hlt => ?_⟩
    · rw [ClosesAt, getElem?_behind]
      simp
    · obtain ⟨m, rfl⟩ := Nat.exists_eq_add_of_le (Nat.succ_le_of_lt hk)
      rw [opensAt_inside (by omega)]
      exact ho m
    · obtain ⟨m, rfl⟩ := Nat.exists_eq_add_of_le (Nat.succ_le_of_lt hk)
      rw [closesAt_inside (by omega)]
      exact hc m

theorem expanded_iff :
    Expanded codes ↔
      ¬∃ before between after,
        codes = before ++ '$'.toNat :: '('.toNat :: (between ++ ')'.toNat :: after) := by
  constructor
  · rintro h ⟨before, between, after, rfl⟩
    refine h before.length (before.length + 2 + between.length) (by simp [OpensAt]) ?_ (by omega)
    rw [ClosesAt, getElem?_behind]
    simp
  · intro h i j hi hj hlt
    obtain ⟨before, rest, rfl, rfl⟩ := exists_of_opensAt hi
    -- What stands right behind the dollar sign is the other half of the opener.
    have hne : j ≠ before.length + 1 := by
      rintro rfl
      rw [ClosesAt, hi.2] at hj
      exact absurd hj (by decide)
    obtain ⟨m, rfl⟩ := Nat.exists_eq_add_of_le (show before.length + 2 ≤ j by omega)
    rw [ClosesAt, getElem?_behind] at hj
    obtain ⟨between, after, rfl, -⟩ := exists_of_getElem? hj
    exact h ⟨before, between, after, rfl⟩

end Places

/-! ## Texts -/

section Texts

open Text (IsText size exists_of_codes_eq)

variable {cs : List Char} {i j : Nat}

theorem isText_behind {before after : List Char} (h : IsText (before ++ '$' :: '(' :: after)) :
    IsText after := by
  have hp : IsText ([] ++ '(' :: after) := (h.of_cut (by decide)).2
  exact (hp.of_cut (by decide)).2

theorem codes_opener {before after : List Char} (h : IsText (before ++ '$' :: '(' :: after)) :
    Text.codes (before ++ '$' :: '(' :: after) =
      Text.codes before ++ '$'.toNat :: '('.toNat :: Text.codes after := by
  have hp : IsText ([] ++ '(' :: after) := (h.of_cut (by decide)).2
  rw [h.codes_cut (by decide)]
  exact congrArg (fun ns => Text.codes before ++ '$'.toNat :: ns) (hp.codes_cut (by decide))

theorem exists_of_codes_opener {ns ms : List Nat}
    (h : Text.codes cs = ns ++ '$'.toNat :: '('.toNat :: ms) :
    ∃ before after, cs = before ++ '$' :: '(' :: after ∧ Text.codes before = ns ∧
      Text.codes after = ms := by
  obtain ⟨before, rest, rfl, hb, hr⟩ := exists_of_codes_eq (by decide) h
  rw [← List.nil_append ('('.toNat :: ms)] at hr
  obtain ⟨between, after, rfl, hn, ha⟩ := exists_of_codes_eq (by decide) hr
  have hb' : between = [] := by
    match between with
    | [] => rfl
    | [c] => simp [Text.codes] at hn
    | c :: d :: rest =>
        rw [Text.codes] at hn
        split at hn <;> contradiction
  exact ⟨before, after, by rw [hb']; rfl, hb, ha⟩

theorem inert_iff_places (h : IsText cs) :
    Inert cs ↔ (∀ k, ¬OpensAt (Text.codes cs) k) ∧ ∀ k, ¬ClosesAt (Text.codes cs) k := by
  rw [inert_iff]
  constructor
  · rintro ⟨ho, hc⟩
    refine ⟨fun k hk => ho ?_, fun k hk => hc ?_⟩
    · obtain ⟨ns, ms, hs, -⟩ := exists_of_opensAt hk
      obtain ⟨before, after, he, -⟩ := exists_of_codes_opener hs
      exact ⟨before, after, he⟩
    · obtain ⟨ns, ms, hs, -⟩ := exists_of_getElem? hk
      obtain ⟨before, after, he, -⟩ := exists_of_codes_eq (by decide) hs
      exact ⟨before, after, he⟩
  · rintro ⟨ho, hc⟩
    constructor
    · rintro ⟨before, after, rfl⟩
      apply ho (size before)
      rw [codes_opener h]
      simp [OpensAt, size]
    · rintro ⟨before, after, rfl⟩
      apply hc (size before)
      rw [h.codes_cut (by decide)]
      simp [ClosesAt, size]

/-- The innermost substitutions of a text by what stands before, in and behind them. -/
theorem isInnermost_codes_iff (h : IsText cs) :
    IsInnermost (Text.codes cs) i j ↔
      ∃ before content after, cs = before ++ (bracket content ++ after) ∧ Inert content ∧
        size before = i ∧ i + 2 + size content = j := by
  have hparts : ∀ before content after : List Char,
      before ++ (bracket content ++ after) =
        before ++ '$' :: '(' :: (content ++ ')' :: after) := by simp [bracket]
  rw [isInnermost_iff]
  constructor
  · rintro ⟨ns, ms, ls, hs, rfl, rfl, ho, hc⟩
    obtain ⟨before, rest, rfl, rfl, hr⟩ := exists_of_codes_opener hs
    obtain ⟨content, after, rfl, rfl, -⟩ := exists_of_codes_eq (by decide) hr
    have hin : IsText content := ((isText_behind h).of_cut (by decide)).1
    exact ⟨before, content, after, (hparts _ _ _).symm,
      (inert_iff_places hin).mpr ⟨ho, hc⟩, rfl, rfl⟩
  · rintro ⟨before, content, after, rfl, hi, rfl, rfl⟩
    rw [hparts] at h ⊢
    have hin : IsText content := ((isText_behind h).of_cut (by decide)).1
    obtain ⟨ho, hc⟩ := (inert_iff_places hin).mp hi
    refine ⟨Text.codes before, Text.codes content, Text.codes after, ?_, rfl, rfl, ho, hc⟩
    rw [codes_opener h, (isText_behind h).codes_cut (by decide)]

theorem expanded_of_innermost?_eq_none (h : innermost? cs = none) : Expanded (Text.codes cs) := by
  rw [expanded_iff]
  rintro ⟨ns, ms, ls, hs⟩
  obtain ⟨before, rest, rfl, -, hr⟩ := exists_of_codes_opener hs
  obtain ⟨between, after, rfl, -, -⟩ := exists_of_codes_eq (by decide) hr
  have hp : 0 < closedCount (before ++ '$' :: '(' :: (between ++ ')' :: after)) :=
    closedCount_pos_iff.mpr ⟨before, between, after, rfl⟩
  exact absurd ((innermost?_eq_none_iff _).mp h) (Nat.ne_of_gt hp)

theorem innermost?_eq_none_iff_expanded (h : IsText cs) :
    innermost? cs = none ↔ Expanded (Text.codes cs) := by
  refine ⟨expanded_of_innermost?_eq_none, fun he => ?_⟩
  rw [innermost?_eq_none_iff]
  by_contra hn
  obtain ⟨before, between, after, rfl⟩ := closedCount_pos_iff.mp (Nat.pos_of_ne_zero hn)
  apply expanded_iff.mp he
  refine ⟨Text.codes before, Text.codes between, Text.codes after, ?_⟩
  rw [codes_opener h, (isText_behind h).codes_cut (by decide)]

theorem isInnermost_bounds {span : Span} (h : IsText cs) (hs : innermost? cs = some span) :
    IsInnermost (Text.codes cs) span.bounds.1 span.bounds.2 := by
  have hcut := cutAt_of_innermost? hs
  exact (isInnermost_codes_iff h).mpr
    ⟨span.before, span.content, span.after, hcut.text_eq, hcut.inert, rfl, rfl⟩

/-- The first innermost substitution is found: were an opener before it closed, there would be one
further in front. -/
theorem innermost?_of_least (h : IsText cs) (hi : IsInnermost (Text.codes cs) i j)
    (hl : ∀ i' j', IsInnermost (Text.codes cs) i' j' → i ≤ i') :
    ∃ span, innermost? cs = some span ∧ span.bounds = (i, j) := by
  obtain ⟨before, content, after, rfl, hc, rfl, rfl⟩ := (isInnermost_codes_iff h).mp hi
  refine ⟨⟨before, content, after⟩, innermost?_of_cutAt ⟨rfl, hc, ?_⟩, rfl⟩
  by_contra hn
  have hsome : innermost? before ≠ none := fun he => hn ((innermost?_eq_none_iff before).mp he)
  obtain ⟨span, hs⟩ := Option.ne_none_iff_exists'.mp hsome
  have hcut := cutAt_of_innermost? hs
  have hc : '$'.toNat < Text.Code.setAside := by decide
  have hb : IsText before := (h.of_cut hc).1
  have hlt : size span.before < size before := by
    rw [hcut.text_eq, bracket, List.cons_append] at hb ⊢
    rw [size, size, hb.codes_cut (by decide), List.length_append]
    simp
  have hle : size before ≤ size span.before :=
    hl _ _ ((isInnermost_codes_iff h).mpr
      ⟨span.before, span.content, span.after ++ (bracket content ++ after), by
        conv_lhs => rw [hcut.text_eq]
        simp, hcut.inert, rfl, rfl⟩)
  omega

theorem innermost?_bounds_iff (h : IsText cs) :
    (innermost? cs).map Span.bounds = some (i, j) ↔
      IsInnermost (Text.codes cs) i j ∧
        ∀ i' j', IsInnermost (Text.codes cs) i' j' → i ≤ i' := by
  constructor
  · intro hb
    obtain ⟨span, hs, hb⟩ := Option.map_eq_some_iff.mp hb
    have hi := isInnermost_bounds h hs
    rw [hb] at hi
    refine ⟨hi, fun i' j' hi' => ?_⟩
    -- The least place of all is found too, and only one place is.
    classical
    have hex : ∃ i j, IsInnermost (Text.codes cs) i j := ⟨i', j', hi'⟩
    obtain ⟨j₀, h₀⟩ := Nat.find_spec hex
    obtain ⟨span₀, hs₀, hb₀⟩ :=
      innermost?_of_least h h₀ fun k m hk => Nat.find_min' hex ⟨m, hk⟩
    rw [hs, Option.some.injEq] at hs₀
    rw [← hs₀, hb, Prod.mk.injEq] at hb₀
    rw [hb₀.1]
    exact Nat.find_min' hex ⟨j', hi'⟩
  · rintro ⟨hi, hl⟩
    obtain ⟨span, hs, hb⟩ := innermost?_of_least h hi hl
    rw [hs, Option.map_some, hb]

end Texts

/-! ## Expansion -/

section Expansion

variable {σ ε : Type} {exceeded : ε}

/-- The loop returns a text only where the search finds nothing more. -/
theorem innermost?_of_expand {evaluate : List Char → σ → Except ε (List Char) × σ} {passes : Nat}
    {text result : List Char} {s s' : σ}
    (h : expand exceeded evaluate passes text s = (.ok result, s')) : innermost? result = none := by
  induction passes generalizing text s with
  | zero =>
      cases hi : innermost? text with
      | none =>
          rw [expand_of_none hi] at h
          cases h
          exact hi
      | some span =>
          rw [expand_zero hi] at h
          cases h
  | succ passes ih =>
      cases hi : innermost? text with
      | none =>
          rw [expand_of_none hi] at h
          cases h
          exact hi
      | some span =>
          rw [expand_succ hi] at h
          split at h
          · cases h
          · exact ih h

end Expansion

end Syntax.Substitution

section Expansion

open Syntax.Substitution (innermost? innermost?_of_expand expand_of_none)

theorem Syntax.innermost?_of_expandSubstitutions {σ ε : Type} {exceeded : ε}
    {evaluate : String → σ → Except ε String × σ} {limit : Int} {text result : String} {s s' : σ}
    (h : expandSubstitutions exceeded evaluate limit text s = (.ok result, s')) :
    innermost? result.toList = none := by
  rw [expandSubstitutions] at h
  split at h
  rename_i expanded after he
  cases expanded with
  | error e => cases h
  | ok cs =>
      cases h
      rw [String.toList_ofList]
      exact innermost?_of_expand he

theorem Syntax.expandSubstitutions_of_none {σ ε : Type} {text : String}
    (h : innermost? text.toList = none) (exceeded : ε)
    (evaluate : String → σ → Except ε String × σ) (limit : Int) (s : σ) :
    expandSubstitutions exceeded evaluate limit text s = (.ok text, s) := by
  rw [expandSubstitutions, expand_of_none h]
  simp [Except.map]

namespace Stack

variable {run : Runner} {room : Room} {text result : String} {s s' : Shell}

theorem expandWith_of_none (hr : room.overflow? (searchingClimb text) = none)
    (h : innermost? text.toList = none) : expandWith run room text s = (.ok text, s) := by
  rw [expandWith, after_of_room hr]
  exact Syntax.expandSubstitutions_of_none h _ _ _ s

/-- There is room to search what was expanded where there was for the text itself. -/
theorem searchingClimb_of_expandWith (h : expandWith run room text s = (.ok result, s')) :
    room.overflow? (searchingClimb result) = none := by
  obtain ⟨hr, -⟩ := after_eq_ok (congrArg Prod.fst h)
  by_cases ht : text = ""
  · subst ht
    rw [expandWith_of_none hr rfl, Prod.mk.injEq, Except.ok.injEq] at h
    rwa [← h.1]
  · refine Room.overflow?_of_le hr ?_
    rw [searchingClimb, searchingClimb, if_neg ht]
    split <;> decide

theorem innermost?_of_expandWith (h : expandWith run room text s = (.ok result, s')) :
    innermost? result.toList = none := by
  obtain ⟨hr, -⟩ := after_eq_ok (congrArg Prod.fst h)
  rw [expandWith, after_of_room hr] at h
  exact Syntax.innermost?_of_expandSubstitutions h

end Stack

end Expansion

namespace Syntax

open Substitution (IsInnermost Expanded expanded_of_innermost?_eq_none innermost?_bounds_iff
  innermost?_eq_none_iff_expanded)

/-- The search finds the first innermost substitution, if there is one. What a text expands to has
none, and expanding it again evaluates nothing. -/
theorem findInnermost_least (text : String) (h : Text.IsText text.toList) :
    let codes := Text.codes text.toList
    (∀ i j, findInnermost text = some (i, j) ↔
      IsInnermost codes i j ∧ ∀ i' j', IsInnermost codes i' j' → i ≤ i') ∧
    (findInnermost text = none ↔ Expanded codes) ∧
    (∀ {σ ε : Type} (exceeded : ε) (evaluate : String → σ → Except ε String × σ) (limit : Int)
        (s s' : σ) (result : String),
      expandSubstitutions exceeded evaluate limit text s = (.ok result, s') →
        Expanded (Text.codes result.toList) ∧
        ∀ {σ' ε' : Type} (exceeded' : ε') (evaluate' : String → σ' → Except ε' String × σ')
            (limit' : Int) (r : σ'),
          expandSubstitutions exceeded' evaluate' limit' result r = (.ok result, r)) ∧
    (∀ (room : Room) (s s' : Shell) (result : String),
      Stack.expandSubstitutions room text s = (.ok result, s') →
        Expanded (Text.codes result.toList) ∧
        ∀ r : Shell, Stack.expandSubstitutions room result r = (.ok result, r)) ∧
    expandDetached text = text := by
  intro codes
  refine ⟨fun i j => innermost?_bounds_iff h, ?_, ?_, ?_, rfl⟩
  · rw [← innermost?_eq_none_iff_expanded h, findInnermost, Option.map_eq_none_iff]
  · intro σ ε exceeded evaluate limit s s' result he
    have hn := innermost?_of_expandSubstitutions he
    exact ⟨expanded_of_innermost?_eq_none hn, expandSubstitutions_of_none hn⟩
  · intro room s s' result he
    have hn := Stack.innermost?_of_expandWith he
    exact ⟨expanded_of_innermost?_eq_none hn,
      fun r => Stack.expandWith_of_none (Stack.searchingClimb_of_expandWith he) hn⟩

/-- The inner one of two substitutions, of which the outer one is left open. -/
theorem findInnermost_least_nested :
    let text := "$(a $(b)"
    let codes := Text.codes text.toList
    let evaluate := fun (_ : String) (n : Nat) => ((.ok "x" : Except Unit String), n + 1)
    Text.IsText text.toList ∧
      (IsInnermost codes 4 7 ∧ ∀ i j, IsInnermost codes i j → 4 ≤ i) ∧
      expandSubstitutions () evaluate 1 text 0 = (.ok "$(a x", 1) ∧
      Expanded (Text.codes "$(a x".toList) := by
  intro text codes evaluate
  have ht : Text.IsText text.toList := .of_all (by decide)
  have hf : findInnermost text = some (4, 7) := by decide
  have he : expandSubstitutions () evaluate 1 text 0 = (.ok "$(a x", 1) := by decide
  obtain ⟨hi, -, hx, -⟩ := findInnermost_least text ht
  exact ⟨ht, (hi 4 7).mp hf, he, (hx _ _ _ _ _ _ he).1⟩

/-- A text that has substitutions keeps them where there is no shell to evaluate them in. -/
theorem expandDetached_unexpanded :
    ¬∀ text : String, Expanded (Text.codes (expandDetached text).toList) := by
  intro h
  have he := h "$()" 0 2 ⟨by decide, by decide⟩ (by unfold Substitution.ClosesAt; decide)
  exact he (by decide)

end Syntax

end CommandShell
