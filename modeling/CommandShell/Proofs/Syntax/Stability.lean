import CommandShell.Proofs.Syntax.Trimming

/-!
Statements that are cut again. A line is cut at a separator outside of all substitutions, again and
again, into pieces that hold no such separator; only the last of them can leave a substitution open.
So no statement is cut any further, and a line of statements with separators between them is cut
into just these statements.
-/

namespace CommandShell.Syntax

namespace Statement

open Text (isBlank)
open Text.Chars (trim)

/-! ## The first cut -/

section FirstCut

variable {s c : Char} {cs rest before after : List Char} {depth : Nat}

/-- A line is one piece, or it has a first separator at which it is cut. -/
theorem whole_or_cut (s : Char) (depth : Nat) (cs : List Char) :
    pieces [s] depth cs = [cs] ∨
      ∃ before after, cs = before ++ s :: after ∧ pieces [s] depth before = [before] ∧
        depthAfter depth before = 0 := by
  induction depth, cs using depthAfter.induct with
  | case1 depth => exact .inl (by simp [pieces])
  | case2 depth rest ih =>
      rw [pieces_opener]
      rcases ih with hw | ⟨before, after, rfl, hw, hd⟩
      · exact .inl (by rw [hw]; rfl)
      · refine .inr ⟨'$' :: '(' :: before, after, rfl, ?_, ?_⟩
        · rw [pieces_opener, hw]
          rfl
        · rw [depthAfter_opener, hd]
  | case3 c rest ho ih =>
      have hc : Ordinary c rest := .of_not_opener ho
      rw [pieces_cons hc]
      by_cases hs : c = s
      · subst hs
        exact .inr ⟨[], rest, rfl, by simp [pieces], rfl⟩
      · rw [if_neg hs]
        rcases ih with hw | ⟨before, after, rfl, hw, hd⟩
        · exact .inl (by rw [hw]; rfl)
        · have hb : Ordinary c before := hc.of_append
          refine .inr ⟨c :: before, after, rfl, ?_, ?_⟩
          · rw [pieces_cons hb, if_neg hs, hw]
            rfl
          · rw [depthAfter_zero hb, hd]
  | case4 depth c rest ho ih =>
      have hc : Ordinary c rest := .of_not_opener ho
      rw [pieces_succ _ hc]
      rcases ih with hw | ⟨before, after, rfl, hw, hd⟩
      · exact .inl (by rw [hw]; rfl)
      · have hb : Ordinary c before := hc.of_append
        refine .inr ⟨c :: before, after, rfl, ?_, ?_⟩
        · rw [pieces_succ _ hb, hw]
          rfl
        · rw [depthAfter_succ hb, hd]

/-- A line is one piece exactly if no separator in it stands outside of all substitutions. -/
theorem pieces_eq_self_iff (hd : s ≠ '$') (hp : s ≠ '(') :
    pieces [s] depth cs = [cs] ↔
      ∀ before after, cs = before ++ s :: after → depthAfter depth before ≠ 0 := by
  constructor
  · rintro h before after rfl h0
    rw [pieces_append hd hp h0] at h
    have hl := congrArg List.length h
    have hb := List.length_pos_iff.mpr (pieces_ne_nil s depth before)
    have ha := List.length_pos_iff.mpr (pieces_ne_nil s 0 after)
    rw [List.length_append, List.length_singleton] at hl
    omega
  · intro h
    rcases whole_or_cut s depth cs with hw | ⟨before, after, he, -, h0⟩
    · exact hw
    · exact absurd h0 (h before after he)

/-- A line is read piece by piece: it is one piece, or a whole one is cut off in front of it. -/
theorem cut_induction {motive : List Char → Prop} (s : Char)
    (whole : ∀ cs, pieces [s] 0 cs = [cs] → motive cs)
    (cut : ∀ before after, pieces [s] 0 before = [before] → depthAfter 0 before = 0 →
      motive after → motive (before ++ s :: after)) (cs : List Char) : motive cs := by
  induction hn : cs.length using Nat.strongRecOn generalizing cs with
  | _ n ih =>
      rcases whole_or_cut s 0 cs with hw | ⟨before, after, rfl, hw, hd⟩
      · exact whole cs hw
      · refine cut before after hw hd (ih after.length ?_ after rfl)
        rw [← hn, List.length_append, List.length_cons]
        omega

end FirstCut

/-! ## Blanks around a piece -/

section Blanks

variable {c : Char} {cs blanks rest : List Char} {depth : Nat}

theorem ordinary_of_blank (h : isBlank c = true) : Ordinary c rest := by
  rintro ⟨rfl, -⟩
  exact absurd h (by decide)

theorem depthAfter_blank_cons (h : isBlank c = true) :
    depthAfter depth (c :: rest) = depthAfter depth rest := by
  cases depth with
  | zero => exact depthAfter_zero (ordinary_of_blank h)
  | succ depth =>
      have hp : c ≠ ')' := by
        rintro rfl
        exact absurd h (by decide)
      rw [depthAfter_succ (ordinary_of_blank h), if_neg hp]

theorem depthAfter_blanks_append (h : blanks.all isBlank = true) (depth : Nat) (cs : List Char) :
    depthAfter depth (blanks ++ cs) = depthAfter depth cs := by
  induction blanks with
  | nil => rfl
  | cons c rest ih =>
      rw [List.all_cons, Bool.and_eq_true] at h
      rw [List.cons_append, depthAfter_blank_cons h.1, ih h.2]

theorem depthAfter_append_blanks (h : blanks.all isBlank = true) (depth : Nat) (cs : List Char) :
    depthAfter depth (cs ++ blanks) = depthAfter depth cs := by
  have hb : ∀ c rest, Ordinary c rest → Ordinary c (rest ++ blanks) := by
    rintro c rest ho ⟨hc, hh⟩
    cases rest with
    | nil => exact absurd (List.all_eq_true.mp h '(' (List.mem_of_mem_head? hh)) (by decide)
    | cons d rest => exact ho ⟨hc, hh⟩
  induction depth, cs using depthAfter.induct with
  | case1 depth => simpa [depthAfter] using depthAfter_blanks_append h depth []
  | case2 depth rest ih => rw [List.cons_append, List.cons_append, depthAfter_opener, ih,
      depthAfter_opener]
  | case3 c rest ho ih =>
      have hc : Ordinary c rest := .of_not_opener ho
      rw [List.cons_append, depthAfter_zero (hb c rest hc), ih, depthAfter_zero hc]
  | case4 depth c rest ho ih =>
      have hc : Ordinary c rest := .of_not_opener ho
      rw [List.cons_append, depthAfter_succ (hb c rest hc), ih, depthAfter_succ hc]

theorem depthAfter_trim (cs : List Char) : depthAfter 0 (trim cs) = depthAfter 0 cs := by
  obtain ⟨right, hr, hs⟩ := Text.Chars.exists_eq_trim cs
  conv_rhs => rw [hs, depthAfter_blanks_append List.all_takeWhile, depthAfter_append_blanks hr]

/-- Trimming a piece makes no separator of it stand outside of substitutions. -/
theorem pieces_trim {s : Char} (hd : s ≠ '$') (hp : s ≠ '(') (h : pieces [s] 0 cs = [cs]) :
    pieces [s] 0 (trim cs) = [trim cs] := by
  obtain ⟨right, -, hs⟩ := Text.Chars.exists_eq_trim cs
  rw [pieces_eq_self_iff hd hp] at h ⊢
  intro before after he h0
  refine h (cs.takeWhile isBlank ++ before) (after ++ right) ?_ ?_
  · conv_lhs => rw [hs, he]
    simp
  · rw [depthAfter_blanks_append List.all_takeWhile, h0]

end Blanks

/-! ## Gaps -/

/-- Whether nothing but blanks and separators stands in a text. -/
def IsGap (cs : List Char) : Prop :=
  ∀ c ∈ cs, isBlank c = true ∨ c = ';'

/-- A text consists of parts in their order, with gaps before, between and behind them. -/
inductive LaidOut : List Char → List (List Char) → Prop
  | gap {cs} (h : IsGap cs) : LaidOut cs []
  | part {before cs rest} {parts} (h : IsGap before) (hr : LaidOut rest parts) :
      LaidOut (before ++ (cs ++ rest)) (cs :: parts)

namespace LaidOut

variable {cs ds : List Char} {parts others : List (List Char)}

theorem gap_append (h : IsGap cs) (hd : LaidOut ds parts) : LaidOut (cs ++ ds) parts := by
  have hg : ∀ {later}, IsGap later → IsGap (cs ++ later) := fun hl c hc =>
    (List.mem_append.mp hc).elim (h c) (hl c)
  cases hd with
  | gap hl => exact .gap (hg hl)
  | part hl hr =>
      rw [← List.append_assoc]
      exact .part (hg hl) hr

theorem append (h : LaidOut cs parts) (hd : LaidOut ds others) :
    LaidOut (cs ++ ds) (parts ++ others) := by
  induction h with
  | gap hg => exact hd.gap_append hg
  | part hg _ ih =>
      rw [List.append_assoc, List.append_assoc]
      exact .part hg ih

end LaidOut

end Statement

open Statement (pieces depthAfter cut_induction pieces_trim depthAfter_trim LaidOut IsGap)
open Text.Chars (trim)

/-! ## Statements -/

section Statements

variable {cs before after : List Char}

/-- A piece is a statement without the blanks around it, if anything else is in it. -/
theorem statements_of_whole {s : Char} (h : pieces [s] 0 cs = [cs]) :
    statements [s] cs = if trim cs = [] then [] else [trim cs] := by
  rw [statements, h, List.map_singleton, List.filter_cons]
  by_cases ht : trim cs = [] <;> simp [ht]

theorem statements_trim {s : Char} (hd : s ≠ '$') (hp : s ≠ '(') (h : pieces [s] 0 cs = [cs])
    (hn : trim cs ≠ []) : statements [s] (trim cs) = [trim cs] := by
  have ht : trim (trim cs) = trim cs := (Text.Chars.isTrim_trim cs).trim_eq
  rw [statements_of_whole (pieces_trim hd hp h), ht, if_neg hn]

theorem isGap_of_blank (h : cs.all Text.isBlank = true) : IsGap cs :=
  fun c hc => .inl (List.all_eq_true.mp h c hc)

theorem laidOut_of_whole (h : pieces [';'] 0 cs = [cs]) : LaidOut cs (statements [';'] cs) := by
  rw [statements_of_whole h]
  split
  · rename_i ht
    exact .gap (isGap_of_blank (Text.Chars.trim_eq_nil_iff.mp ht))
  · obtain ⟨right, hr, hs⟩ := Text.Chars.exists_eq_trim cs
    have hl : IsGap (cs.takeWhile Text.isBlank) := isGap_of_blank List.all_takeWhile
    have hp : LaidOut (cs.takeWhile Text.isBlank ++ (trim cs ++ right)) [trim cs] :=
      .part hl (.gap (isGap_of_blank hr))
    rwa [← hs] at hp

/-- Nothing but blanks and separators is lost between the statements of a line. -/
theorem laidOut_statements (cs : List Char) : LaidOut cs (statements [';'] cs) := by
  induction cs using cut_induction ';' with
  | whole cs h => exact laidOut_of_whole h
  | cut before after h hd ih =>
      rw [statements_append (by decide) (by decide) hd]
      have hs : IsGap [';'] := by simp [IsGap]
      exact (laidOut_of_whole h).append (ih.gap_append hs)

/-- A statement is not empty, has no blanks around it, and is one statement by itself. -/
theorem statement_spec {s : Char} (hd : s ≠ '$') (hp : s ≠ '(') (cs : List Char) :
    ∀ p ∈ statements [s] cs, p ≠ [] ∧ trim p = p ∧ statements [s] p = [p] := by
  have hw : ∀ cs, pieces [s] 0 cs = [cs] →
      ∀ p ∈ statements [s] cs, p ≠ [] ∧ trim p = p ∧ statements [s] p = [p] := by
    intro cs h p hm
    rw [statements_of_whole h] at hm
    split at hm
    · cases hm
    · rename_i hn
      rw [List.mem_singleton] at hm
      subst hm
      exact ⟨hn, (Text.Chars.isTrim_trim cs).trim_eq, statements_trim hd hp h hn⟩
  induction cs using cut_induction s with
  | whole cs h => exact hw cs h
  | cut before after h h0 ih =>
      rw [statements_append hd hp h0]
      intro p hm
      exact (List.mem_append.mp hm).elim (hw before h p) (ih p)

/-- The statements of a line with separators between them are the statements of that line again. -/
theorem statements_intercalate {s : Char} (hd : s ≠ '$') (hp : s ≠ '(') (cs : List Char) :
    statements [s] ([s].intercalate (statements [s] cs)) = statements [s] cs := by
  have hn : statements [s] [] = [] := by
    rw [statements_of_whole (by simp [pieces]), if_pos (Text.Chars.trim_of_blank rfl)]
  induction cs using cut_induction s with
  | whole cs h =>
      rw [statements_of_whole h]
      split
      · exact hn
      · rename_i ht
        rw [List.intercalate_singleton, statements_trim hd hp h ht]
  | cut before after h h0 ih =>
      rw [statements_append hd hp h0, statements_of_whole h]
      split
      · exact ih
      · rename_i ht
        have hb : statements [s] (trim before) = [trim before] := statements_trim hd hp h ht
        rw [List.singleton_append]
        cases hl : statements [s] after with
        | nil => rw [List.intercalate_singleton, hb]
        | cons p ps =>
            rw [hl] at ih
            rw [List.intercalate_cons_cons, List.append_assoc, List.singleton_append,
              statements_append hd hp ((depthAfter_trim before).trans h0), hb, ih]
            rfl

end Statements

/-- The statements of a line stand in it in order, with only blanks and separators around them, and
splitting them again changes nothing. -/
theorem splitStatements_stable (line : String) :
    LaidOut line.toList ((splitStatements line).map String.toList) ∧
    (∀ p ∈ splitStatements line, p ≠ "" ∧ Text.trim p = p ∧ splitStatements p = [p]) ∧
    splitStatements (";".intercalate (splitStatements line)) = splitStatements line := by
  have hs : (splitStatements line).map String.toList = statements [';'] line.toList := by
    simp [splitStatements, Function.comp_def]
  refine ⟨?_, ?_, ?_⟩
  · rw [hs]
    exact laidOut_statements line.toList
  · intro p hp
    obtain ⟨cs, hm, rfl⟩ := List.mem_map.mp hp
    obtain ⟨hn, ht, hw⟩ := statement_spec (by decide) (by decide) line.toList cs hm
    refine ⟨?_, ?_, ?_⟩
    · simpa using hn
    · rw [Text.trim, String.toList_ofList, ht]
    · rw [splitStatements, String.toList_ofList, hw, List.map_singleton]
  · rw [splitStatements, String.toList_intercalate, hs]
    have hj : statements [';'] ([';'].intercalate (statements [';'] line.toList)) =
        statements [';'] line.toList := statements_intercalate (by decide) (by decide) _
    exact congrArg (List.map String.ofList) hj

/-- Two statements, the second of which leaves a substitution open. -/
theorem splitStatements_stable_open :
    let line := " a ;; $(b;c) $(d;"
    splitStatements line = ["a", "$(b;c) $(d;"] ∧
      splitStatements "$(b;c) $(d;" = ["$(b;c) $(d;"] ∧
      splitStatements "a;$(b;c) $(d;" = ["a", "$(b;c) $(d;"] := by
  intro line
  have hs : splitStatements line = ["a", "$(b;c) $(d;"] := by decide
  obtain ⟨-, hp, hj⟩ := splitStatements_stable line
  rw [hs] at hp hj
  exact ⟨hs, (hp "$(b;c) $(d;" (by simp)).2.2, hj⟩

end CommandShell.Syntax
