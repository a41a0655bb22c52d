import CommandShell.Proofs.Substitution.Spans
import CommandShell.Proofs.Syntax.Pieces

/-! Where the statements of a line stand. A line is cut outside of closed substitutions only, so that
those of its statements, in order, are those of the line; and where every opener is closed it is cut
everywhere outside of them. -/

namespace CommandShell.Syntax

open Substitution (closing closing_opener closing_closer closing_cons bracket spans EveryClosed
  eq_of_closing outside_induction)

namespace Statement

/-- Pieces with the places at which they begin, one separator apart. -/
def placed : Nat → List (List Char) → List (Nat × List Char)
  | _, [] => []
  | start, piece :: later => (start, piece) :: placed (start + piece.length + 1) later

/-- The places of the separators between pieces. -/
def cuts : Nat → List (List Char) → List Nat
  | start, piece :: next :: later =>
      (start + piece.length) :: cuts (start + piece.length + 1) (next :: later)
  | _, _ => []

/-- A placed piece without the blanks around it. -/
def trimmed (p : Nat × List Char) : Nat × List Char :=
  (p.1 + (p.2.takeWhile Text.isBlank).length, Text.Chars.trim p.2)

/-- The statements of a line with the places at which they begin. -/
def located (cs : List Char) : List (Nat × List Char) :=
  ((placed 0 (pieces [';'] 0 cs)).map trimmed).filter fun p => p.2 ≠ []

/-- The places at which a line is cut into statements. -/
def splitPoints (cs : List Char) : List Nat :=
  cuts 0 (pieces [';'] 0 cs)

/-! ## Places -/

section Places

variable {s : Char} {start k : Nat} {ps : List (List Char)} {p : Nat × List Char}

theorem placed_prepend (start : Nat) (before piece : List Char) (later : List (List Char)) :
    placed start (prepend before (piece :: later)) =
      (start, before ++ piece) ::
        placed (start + before.length + piece.length + 1) later := by
  simp [prepend, placed, Nat.add_assoc]

theorem cuts_prepend (start : Nat) (before : List Char) (h : ps ≠ []) :
    cuts start (prepend before ps) = cuts (start + before.length) ps := by
  match ps, h with
  | [piece], _ => rfl
  | piece :: next :: later, _ => simp [prepend, cuts, Nat.add_assoc]

theorem map_snd_placed (start : Nat) (ps : List (List Char)) :
    (placed start ps).map Prod.snd = ps := by
  induction ps generalizing start with
  | nil => rfl
  | cons piece later ih => rw [placed, List.map_cons, ih]

theorem mem_placed (hp : p ∈ placed start ps) :
    ∃ before later, [s].intercalate ps = before ++ (p.2 ++ later) ∧
      p.1 = start + before.length := by
  induction ps generalizing start with
  | nil => simp [placed] at hp
  | cons piece ps ih =>
      rw [placed, List.mem_cons] at hp
      cases ps with
      | nil =>
          rcases hp with rfl | hp
          · exact ⟨[], [], by simp, rfl⟩
          · simp [placed] at hp
      | cons next ps =>
          rw [List.intercalate_cons_cons]
          rcases hp with rfl | hp
          · exact ⟨[], [s] ++ [s].intercalate (next :: ps), by simp, rfl⟩
          · obtain ⟨before, later, he, hs⟩ := ih hp
            refine ⟨piece ++ s :: before, later, by simp [he], ?_⟩
            simp only [hs, List.length_append, List.length_cons]
            omega

theorem mem_cuts (hk : k ∈ cuts start ps) :
    ∃ before later, [s].intercalate ps = before ++ s :: later ∧ k = start + before.length := by
  induction ps generalizing start with
  | nil => simp [cuts] at hk
  | cons piece ps ih =>
      cases ps with
      | nil => simp [cuts] at hk
      | cons next ps =>
          rw [cuts, List.mem_cons] at hk
          rw [List.intercalate_cons_cons]
          rcases hk with rfl | hk
          · exact ⟨piece, [s].intercalate (next :: ps), by simp, rfl⟩
          · obtain ⟨before, later, he, hs⟩ := ih hk
            refine ⟨piece ++ s :: before, later, by simp [he], ?_⟩
            simp only [hs, List.length_append, List.length_cons]
            omega

/-- A separator stands before a piece or behind it. -/
theorem lt_or_le_of_mem_cuts (hp : p ∈ placed start ps) (hk : k ∈ cuts start ps) :
    k < p.1 ∨ p.1 + p.2.length ≤ k := by
  induction ps generalizing start with
  | nil => simp [cuts] at hk
  | cons piece ps ih =>
      cases ps with
      | nil => simp [cuts] at hk
      | cons next ps =>
          rw [placed, List.mem_cons] at hp
          rw [cuts, List.mem_cons] at hk
          rcases hp with rfl | hp <;> rcases hk with rfl | hk
          · exact .inr (Nat.le_refl _)
          · obtain ⟨_, -, -, hs⟩ := mem_cuts (s := ';') hk
            exact .inr (by simp only; omega)
          · obtain ⟨_, -, -, hs⟩ := mem_placed (s := ';') hp
            exact .inl (by omega)
          · exact ih hp hk

end Places

/-! ## Pieces around substitutions -/

section Pieces

variable {s : Char} {text rest content after : List Char} {level : Nat}

theorem prepend_prepend (before later : List Char) (ps : List (List Char)) :
    prepend before (prepend later ps) = prepend (before ++ later) ps := by
  cases ps <;> simp [prepend]

/-- A level that is closed stands in one piece. -/
theorem pieces_closing (h : closing level text = some (content, after)) (depth : Nat) :
    pieces [s] (depth + level + 1) text =
      prepend (content ++ [')']) (pieces [s] depth after) := by
  induction text using Substitution.closedCount.induct generalizing level content with
  | case1 => simp [closing] at h
  | case2 rest ih =>
      rw [closing_opener, Option.map_eq_some_iff] at h
      obtain ⟨r, hr, he⟩ := h
      cases he
      rw [pieces_opener, Nat.add_assoc depth, ih hr, prepend_prepend]
      rfl
  | case3 c rest ho ih =>
      rw [pieces_succ _ (.of_not_opener ho)]
      by_cases hp : c = ')'
      · subst hp
        cases level with
        | zero =>
            simp only [closing, ↓reduceIte, Option.some.injEq, Prod.mk.injEq] at h
            rw [← h.1, ← h.2]
            rfl
        | succ level =>
            rw [closing_closer, Option.map_eq_some_iff] at h
            obtain ⟨r, hr, he⟩ := h
            cases he
            rw [if_pos rfl, ← Nat.add_assoc depth, ih hr, prepend_prepend]
            rfl
      · rw [closing_cons _ hp ho, Option.map_eq_some_iff] at h
        obtain ⟨r, hr, he⟩ := h
        cases he
        rw [if_neg hp, ih hr, prepend_prepend]
        rfl

/-- Behind an opener that is not closed nothing is cut. -/
theorem pieces_unclosed (h : closing level text = none) (depth : Nat) :
    pieces [s] (depth + level + 1) text = [text] := by
  induction text using Substitution.closedCount.induct generalizing level with
  | case1 => simp [pieces]
  | case2 rest ih =>
      rw [closing_opener, Option.map_eq_none_iff] at h
      rw [pieces_opener, Nat.add_assoc depth, ih h]
      rfl
  | case3 c rest ho ih =>
      rw [pieces_succ _ (.of_not_opener ho)]
      by_cases hp : c = ')'
      · subst hp
        cases level with
        | zero => simp [closing] at h
        | succ level =>
            rw [closing_closer, Option.map_eq_none_iff] at h
            rw [if_pos rfl, ← Nat.add_assoc depth, ih h]
            rfl
      · rw [closing_cons _ hp ho, Option.map_eq_none_iff] at h
        rw [if_neg hp, ih h]
        rfl

theorem pieces_substitution (h : closing 0 rest = some (content, after)) :
    pieces [s] 0 ('$' :: '(' :: rest) = prepend (bracket content) (pieces [s] 0 after) := by
  rw [pieces_opener, pieces_closing h 0, prepend_prepend]
  rfl

theorem pieces_opener_unclosed (h : closing 0 rest = none) :
    pieces [s] 0 ('$' :: '(' :: rest) = ['$' :: '(' :: rest] := by
  rw [pieces_opener, pieces_unclosed h 0]
  rfl

theorem opener_eq_bracket (h : closing 0 rest = some (content, after)) :
    '$' :: '(' :: rest = bracket content ++ after := by
  rw [eq_of_closing h]
  simp [bracket]

theorem start_behind_bracket (start : Nat) (content : List Char) :
    start + (bracket content).length = start + 2 + content.length + 1 := by
  simp [bracket]
  omega

/-- The pieces with the separators between them are the line. -/
theorem intercalate_pieces (s : Char) (text : List Char) :
    [s].intercalate (pieces [s] 0 text) = text := by
  have hp : ∀ before : List Char, ∀ ps, ps ≠ [] →
      [s].intercalate (prepend before ps) = before ++ [s].intercalate ps := by
    intro before ps h
    match ps, h with
    | [piece], _ => simp [prepend]
    | piece :: next :: later, _ => simp [prepend, List.intercalate_cons_cons]
  induction text using outside_induction with
  | nil => simp [pieces]
  | closed rest content after h ih =>
      rw [pieces_substitution h, hp _ _ (pieces_ne_nil s 0 after), ih, opener_eq_bracket h]
  | unclosed rest h =>
      rw [pieces_opener_unclosed h]
      exact List.intercalate_singleton
  | cons c rest ho ih =>
      rw [pieces_cons (Ordinary.of_not_opener ho)]
      obtain ⟨piece, later, hr⟩ := List.exists_cons_of_ne_nil (pieces_ne_nil s 0 rest)
      split
      · subst_vars
        rw [hr, List.intercalate_cons_cons, ← hr, ih]
        rfl
      · rw [hp _ _ (pieces_ne_nil s 0 rest), ih]
        rfl

/-- The spans of a text are those of its pieces, each where it stands. -/
theorem spans_pieces (s : Char) (start : Nat) (text : List Char) :
    spans start text = (placed start (pieces [s] 0 text)).flatMap fun p => spans p.1 p.2 := by
  induction text using outside_induction generalizing start with
  | nil => rfl
  | closed rest content after h ih =>
      obtain ⟨piece, later, hr⟩ := List.exists_cons_of_ne_nil (pieces_ne_nil s 0 after)
      have hb : bracket content ++ piece = '$' :: '(' :: (content ++ ')' :: piece) := by
        simp [bracket]
      rw [pieces_substitution h, hr, placed_prepend, List.flatMap_cons, hb,
        Substitution.spans_substitution (Substitution.closing_replace h piece),
        Substitution.spans_substitution h, ih, hr, placed, List.flatMap_cons,
        start_behind_bracket]
      simp
  | unclosed rest h =>
      rw [pieces_opener_unclosed h]
      simp [placed]
  | cons c rest ho ih =>
      rw [Substitution.spans_cons ho, ih, pieces_cons (Ordinary.of_not_opener ho)]
      split
      · rfl
      · obtain ⟨piece, later, hr⟩ := List.exists_cons_of_ne_nil (pieces_ne_nil s 0 rest)
        have ho' : ∀ tail, c = '$' → piece = '(' :: tail → False := by
          rintro tail hc rfl
          have hm : (0, '(' :: tail) ∈ placed 0 (('(' :: tail) :: later) := List.mem_cons_self
          obtain ⟨before, more, he, hb⟩ := mem_placed (s := s) hm
          have hn : before = [] := List.eq_nil_of_length_eq_zero (by omega)
          rw [← hr, intercalate_pieces, hn] at he
          exact ho _ hc he
        rw [hr, placed_prepend, placed, List.flatMap_cons, List.flatMap_cons, List.cons_append,
          List.nil_append, Substitution.spans_cons ho']
        simp

/-- A separator outside of a substitution at the head of a text stands behind it: its ends are other
characters. -/
theorem exists_behind_of_outside {start k : Nat} (hd : s ≠ '$') (hp : s ≠ ')')
    (h : closing 0 rest = some (content, after)) (hk : ('$' :: '(' :: rest)[k]? = some s)
    (ho : ¬(start < start + k ∧ start + k < start + 2 + content.length)) :
    ∃ n, k = (bracket content).length + n ∧ after[n]? = some s := by
  have hl : (bracket content).length = content.length + 3 := by simp [bracket]
  rw [opener_eq_bracket h] at hk
  have hge : (bracket content).length ≤ k := by
    by_contra hlt
    have hends : k = 0 ∨ k = content.length + 2 := by omega
    rw [List.getElem?_append_left (by omega)] at hk
    rcases hends with rfl | rfl
    · exact hd (Option.some.inj hk).symm
    · simp [bracket] at hk
      exact hp hk.symm
  obtain ⟨n, rfl⟩ := Nat.exists_eq_add_of_le hge
  rw [List.getElem?_append_right hge, Nat.add_sub_cancel_left] at hk
  exact ⟨n, rfl, hk⟩

/-- Where every opener is closed, a separator outside of all spans is where the line is cut. -/
theorem mem_cuts_of_outside {start k : Nat} (hd : s ≠ '$') (hp : s ≠ ')') (hc : EveryClosed text)
    (hk : text[k]? = some s)
    (ho : ∀ i j, (i, j) ∈ spans start text → ¬(i < start + k ∧ start + k < j)) :
    start + k ∈ cuts start (pieces [s] 0 text) := by
  induction text using outside_induction generalizing start k with
  | nil => simp at hk
  | closed rest content after h ih =>
      rw [Substitution.spans_substitution h] at ho
      obtain ⟨k, rfl, hbehind⟩ :=
        exists_behind_of_outside hd hp h hk (ho _ _ List.mem_cons_self)
      rw [pieces_substitution h, cuts_prepend _ _ (pieces_ne_nil s 0 after), ← Nat.add_assoc]
      refine ih (EveryClosed.of_append (opener_eq_bracket h ▸ hc)) hbehind ?_
      intro i j hm
      rw [Nat.add_assoc]
      apply ho
      refine List.mem_cons_of_mem _ (List.mem_append_right _ ?_)
      rwa [start_behind_bracket] at hm
  | unclosed rest h =>
      have hs := hc [] rest rfl
      rw [h] at hs
      contradiction
  | cons c rest hn ih =>
      rw [Substitution.spans_cons hn] at ho
      rw [pieces_cons (Ordinary.of_not_opener hn)]
      obtain ⟨piece, later, hr⟩ := List.exists_cons_of_ne_nil (pieces_ne_nil s 0 rest)
      have hrest : ∀ k, rest[k]? = some s →
          (∀ i j, (i, j) ∈ spans (start + 1) rest → ¬(i < start + (k + 1) ∧ start + (k + 1) < j)) →
          start + (k + 1) ∈ cuts (start + 1) (pieces [s] 0 rest) := by
        intro k hk ho
        rw [Nat.add_comm k, ← Nat.add_assoc] at ho ⊢
        exact ih hc.tail hk ho
      cases k with
      | zero =>
          rw [if_pos (Option.some.inj hk), hr]
          exact List.mem_cons_self
      | succ k =>
          have hm := hrest k hk ho
          split
          · rw [hr] at hm ⊢
            exact List.mem_cons_of_mem _ hm
          · rw [cuts_prepend _ _ (pieces_ne_nil s 0 rest)]
            exact hm

end Pieces

/-! ## Statements -/

section Located

variable {cs : List Char} {p : Nat × List Char}

theorem map_snd_located (cs : List Char) : (located cs).map Prod.snd = statements [';'] cs := by
  have hf : (located cs).map Prod.snd =
      (((placed 0 (pieces [';'] 0 cs)).map trimmed).map Prod.snd).filter (· ≠ []) := by
    rw [List.filter_map]
    rfl
  have ht : ((placed 0 (pieces [';'] 0 cs)).map trimmed).map Prod.snd =
      ((placed 0 (pieces [';'] 0 cs)).map Prod.snd).map Text.Chars.trim := by
    rw [List.map_map, List.map_map]
    rfl
  rw [hf, ht, map_snd_placed]
  rfl

theorem stands_of_mem_located (h : p ∈ located cs) : p.2 <+: cs.drop p.1 := by
  obtain ⟨piece, hp, rfl⟩ := List.mem_map.mp (List.mem_of_mem_filter h)
  obtain ⟨before, later, he, hs⟩ := mem_placed (s := ';') hp
  obtain ⟨right, -, ht⟩ := Text.Chars.exists_eq_trim piece.2
  have hl : piece.1 + (piece.2.takeWhile Text.isBlank).length =
      (before ++ piece.2.takeWhile Text.isBlank).length := by
    simp [hs]
  have hcs : cs = (before ++ piece.2.takeWhile Text.isBlank) ++
      (Text.Chars.trim piece.2 ++ (right ++ later)) := by
    rw [intercalate_pieces, ht] at he
    rw [he]
    simp only [List.append_assoc]
  refine ⟨right ++ later, ?_⟩
  rw [trimmed, hl, hcs, List.drop_left]

/-- The spans of a line are those of its statements, each where it stands. -/
theorem spans_located (cs : List Char) :
    spans 0 cs = (located cs).flatMap fun p => spans p.1 p.2 := by
  have hb : ∀ ps : List (Nat × List Char),
      ps.flatMap (fun p => spans p.1 p.2) =
        ((ps.map trimmed).filter fun p => p.2 ≠ []).flatMap fun p => spans p.1 p.2 := by
    intro ps
    induction ps with
    | nil => rfl
    | cons p ps ih =>
        rw [List.flatMap_cons, List.map_cons, List.filter_cons, Substitution.spans_trim, ih]
        split
        · rfl
        · rename_i hn
          have ht : Text.Chars.trim p.2 = [] := by
            by_contra ht
            exact hn (decide_eq_true ht)
          rw [ht]
          rfl
  rw [spans_pieces ';', hb]
  rfl

theorem getElem?_of_mem_splitPoints {k : Nat} (h : k ∈ splitPoints cs) : cs[k]? = some ';' := by
  obtain ⟨before, later, he, hk⟩ := mem_cuts (s := ';') h
  rw [intercalate_pieces] at he
  rw [he, hk, Nat.zero_add, List.getElem?_append_right (Nat.le_refl _), Nat.sub_self]
  rfl

theorem not_between_of_mem_splitPoints {i j k : Nat} (hs : (i, j) ∈ spans 0 cs)
    (hk : k ∈ splitPoints cs) : ¬(i < k ∧ k < j) := by
  rw [spans_pieces ';', List.mem_flatMap] at hs
  obtain ⟨piece, hp, hm⟩ := hs
  have hb := Substitution.bounds_of_mem_spans hm
  have hc := lt_or_le_of_mem_cuts hp hk
  omega

end Located

end Statement

open Statement (located splitPoints)

/-- Every span lies inside one statement, and the statements have the spans of the line. Where all
openers are closed, separators outside split it. -/
theorem splitStatements_spans (line : String) :
    let cs := line.toList
    (located cs).map (fun p => String.ofList p.2) = splitStatements line ∧
    (∀ p ∈ located cs, p.2 <+: cs.drop p.1) ∧
    (∀ k ∈ splitPoints cs, cs[k]? = some ';') ∧
    (∀ i j, (i, j) ∈ spans 0 cs →
      (∀ k ∈ splitPoints cs, ¬(i < k ∧ k < j)) ∧
        ∃ p ∈ located cs, p.1 ≤ i ∧ j < p.1 + p.2.length) ∧
    spans 0 cs = (located cs).flatMap (fun p => spans p.1 p.2) ∧
    (EveryClosed cs → ∀ k, cs[k]? = some ';' →
      (∀ i j, (i, j) ∈ spans 0 cs → ¬(i < k ∧ k < j)) → k ∈ splitPoints cs) := by
  intro cs
  refine ⟨?_, fun p => Statement.stands_of_mem_located,
    fun k => Statement.getElem?_of_mem_splitPoints, ?_, Statement.spans_located cs, ?_⟩
  · rw [splitStatements, ← Statement.map_snd_located, List.map_map]
    rfl
  · intro i j hs
    refine ⟨fun k => Statement.not_between_of_mem_splitPoints hs, ?_⟩
    rw [Statement.spans_located, List.mem_flatMap] at hs
    obtain ⟨p, hp, hm⟩ := hs
    have hb := Substitution.bounds_of_mem_spans hm
    exact ⟨p, hp, hb.1, hb.2.2⟩
  · intro hc k hk ho
    have ho' : ∀ i j, (i, j) ∈ spans 0 cs → ¬(i < 0 + k ∧ 0 + k < j) := by
      simpa only [Nat.zero_add] using ho
    have hm := Statement.mem_cuts_of_outside (by decide) (by decide) hc hk ho'
    rwa [Nat.zero_add] at hm

/-- A separator inside a substitution, one outside, and one behind an opener that stays open. -/
example :
    let cs := " a $(b;$(c)) ; $(d;".toList
    located cs = [(1, "a $(b;$(c))".toList), (15, "$(d;".toList)] ∧
      splitPoints cs = [13] ∧ spans 0 cs = [(3, 11), (7, 10)] := by
  decide

end CommandShell.Syntax
