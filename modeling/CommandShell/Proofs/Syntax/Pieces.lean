import CommandShell.Syntax.Statement
import Mathlib.Data.List.Basic
import Mathlib.Data.List.TakeWhile

/-! How a line is cut where another follows it, and what is never cut. A separator outside all
substitutions parts what is before it from what is after it. -/

namespace CommandShell

namespace Syntax.Statement

/-- The depth of open substitutions at which the reading of a text ends, from the one at which it
begins. -/
def depthAfter : Nat → List Char → Nat
  | depth, [] => depth
  | depth, '$' :: '(' :: rest => depthAfter (depth + 1) rest
  | 0, _ :: rest => depthAfter 0 rest
  | depth + 1, c :: rest => depthAfter (if c = ')' then depth else depth + 1) rest

-- The equations are made here once, before many proofs ask for them at the same time.
attribute [grind =] pieces depthAfter

/-! ## One character at a time -/

section Character

variable {c s : Char} {rest : List Char} {depth : Nat}

/-- A character that opens no substitution. -/
def Ordinary (c : Char) (rest : List Char) : Prop :=
  ¬(c = '$' ∧ rest.head? = some '(')

theorem Ordinary.of_not_opener (ho : ∀ tail, c = '$' → rest = '(' :: tail → False) :
    Ordinary c rest :=
  fun h => ho _ h.1 (List.eq_cons_of_mem_head? h.2)

theorem Ordinary.not_opener (h : Ordinary c rest) :
    ∀ tail, c = '$' → rest = '(' :: tail → False := by
  rintro tail rfl rfl
  exact h ⟨rfl, rfl⟩

/-- A character that opens nothing still opens nothing where a separator follows. -/
theorem Ordinary.append {after : List Char} (h : Ordinary c rest) (hs : s ≠ '(') :
    Ordinary c (rest ++ s :: after) := by
  cases rest with
  | nil => exact fun ⟨_, hh⟩ => hs (Option.some.inj hh)
  | cons d rest => exact h

/-- Whether a character opens something does not depend on what is behind the character after it. -/
theorem Ordinary.of_append {after : List Char} (h : Ordinary c (rest ++ after)) :
    Ordinary c rest := by
  cases rest with
  | nil => exact fun hc => Option.some_ne_none _ hc.2.symm
  | cons d rest => exact h

theorem depthAfter_opener (depth : Nat) (rest : List Char) :
    depthAfter depth ('$' :: '(' :: rest) = depthAfter (depth + 1) rest := by
  cases depth <;> rfl

theorem depthAfter_zero (h : Ordinary c rest) : depthAfter 0 (c :: rest) = depthAfter 0 rest :=
  depthAfter.eq_3 _ _ h.not_opener

theorem depthAfter_succ (h : Ordinary c rest) :
    depthAfter (depth + 1) (c :: rest) = depthAfter (if c = ')' then depth else depth + 1) rest :=
  depthAfter.eq_4 _ _ _ h.not_opener

theorem pieces_opener (separator : List Char) (depth : Nat) (rest : List Char) :
    pieces separator depth ('$' :: '(' :: rest) =
      prepend ['$', '('] (pieces separator (depth + 1) rest) := by
  cases depth <;> simp [pieces]

theorem pieces_succ (separator : List Char) (h : Ordinary c rest) :
    pieces separator (depth + 1) (c :: rest) =
      prepend [c] (pieces separator (if c = ')' then depth else depth + 1) rest) :=
  pieces.eq_5 _ _ _ _ h.not_opener

end Character

/-! ## Cuts -/

section Separator

variable {s : Char} {cs before after : List Char} {depth : Nat}

theorem prepend_append (cs : List Char) {first : List (List Char)} (h : first ≠ [])
    (later : List (List Char)) : prepend cs (first ++ later) = prepend cs first ++ later := by
  obtain ⟨piece, rest, rfl⟩ := List.exists_cons_of_ne_nil h
  rfl

theorem prepend_ne_nil (cs : List Char) (ps : List (List Char)) : prepend cs ps ≠ [] := by
  cases ps <;> simp [prepend]

theorem pieces_ne_nil (s : Char) (depth : Nat) (cs : List Char) : pieces [s] depth cs ≠ [] := by
  induction depth, cs using depthAfter.induct with
  | case1 depth => simp [pieces]
  | case2 depth rest _ =>
      rw [pieces_opener]
      exact prepend_ne_nil _ _
  | case3 c rest ho ih =>
      rw [pieces_cons (Ordinary.of_not_opener ho)]
      split
      · exact List.cons_ne_nil _ _
      · exact prepend_ne_nil _ _
  | case4 depth c rest ho ih =>
      rw [pieces_succ _ (.of_not_opener ho)]
      exact prepend_ne_nil _ _

/-- A separator that is read outside all substitutions parts the pieces before it from those after
it. -/
theorem pieces_append (hd : s ≠ '$') (hp : s ≠ '(') (h : depthAfter depth before = 0) :
    pieces [s] depth (before ++ s :: after) = pieces [s] depth before ++ pieces [s] 0 after := by
  induction depth, before using depthAfter.induct with
  | case1 depth =>
      rw [depthAfter] at h
      subst h
      rw [List.nil_append, pieces_cons fun hc => hd hc.1, if_pos rfl]
      rfl
  | case2 depth rest ih =>
      rw [depthAfter_opener] at h
      rw [List.cons_append, List.cons_append, pieces_opener, pieces_opener, ih h,
        prepend_append _ (pieces_ne_nil _ _ _)]
  | case3 c rest ho ih =>
      have hc : Ordinary c rest := .of_not_opener ho
      rw [depthAfter_zero hc] at h
      rw [List.cons_append, pieces_cons (hc.append hp), pieces_cons hc, ih h]
      split
      · rfl
      · exact prepend_append _ (pieces_ne_nil _ _ _) _
  | case4 depth c rest ho ih =>
      have hc : Ordinary c rest := .of_not_opener ho
      rw [depthAfter_succ hc] at h
      rw [List.cons_append, pieces_succ _ (hc.append hp), pieces_succ _ hc, ih h,
        prepend_append _ (pieces_ne_nil _ _ _)]

/-- A text without the separator is never cut. -/
theorem pieces_of_not_mem (h : s ∉ cs) : pieces [s] depth cs = [cs] := by
  induction depth, cs using depthAfter.induct with
  | case1 depth => simp [pieces]
  | case2 depth rest ih =>
      simp only [List.mem_cons, not_or] at h
      rw [pieces_opener, ih h.2.2]
      rfl
  | case3 c rest ho ih =>
      simp only [List.mem_cons, not_or] at h
      rw [pieces_cons (Ordinary.of_not_opener ho), if_neg (Ne.symm h.1), ih h.2]
      rfl
  | case4 depth c rest ho ih =>
      simp only [List.mem_cons, not_or] at h
      rw [pieces_succ _ (.of_not_opener ho), ih h.2]
      rfl

end Separator

end Syntax.Statement

/-! ## Trimming -/

namespace Text.Chars

theorem trim_of_blank {cs : List Char} (h : cs.all isBlank = true) : trim cs = [] := by
  have hd : trimLeft cs = [] := List.dropWhile_eq_nil_iff.mpr (by simpa using h)
  rw [trim, hd]
  rfl

/-- A text that neither begins nor ends with a blank is trim. -/
theorem trim_eq_self {cs : List Char} (hf : ∀ c ∈ cs.head?, isBlank c = false)
    (hl : ∀ c ∈ cs.getLast?, isBlank c = false) : trim cs = cs := by
  have hd : ∀ ds : List Char, (∀ c ∈ ds.head?, isBlank c = false) → ds.dropWhile isBlank = ds := by
    intro ds h
    cases ds with
    | nil => rfl
    | cons c rest => rw [List.dropWhile_cons_of_neg (by simp [h c rfl])]
  rw [trim, trimLeft, hd cs hf, trimRight, hd cs.reverse (by simpa using hl), List.reverse_reverse]

end Text.Chars

namespace Syntax

open Statement (depthAfter)

theorem statements_append {s : Char} {before after : List Char} (hd : s ≠ '$') (hp : s ≠ '(')
    (h : depthAfter 0 before = 0) :
    statements [s] (before ++ s :: after) = statements [s] before ++ statements [s] after := by
  rw [statements, Statement.pieces_append hd hp h, List.map_append, List.filter_append]
  rfl

theorem splitStatements_append {a : String} (h : depthAfter 0 a.toList = 0) (b : String) :
    splitStatements (a ++ ";" ++ b) = splitStatements a ++ splitStatements b := by
  have ht : (a ++ ";" ++ b).toList = a.toList ++ ';' :: b.toList := by simp
  rw [splitStatements, ht, statements_append (by decide) (by decide) h, List.map_append]
  rfl

theorem splitStatements_of_blank {line : String} (h : Text.isBlankText line = true) :
    splitStatements line = [] := by
  have hs : ';' ∉ line.toList := by
    intro hm
    have hb := List.all_eq_true.mp h ';' hm
    exact absurd hb (by decide)
  rw [splitStatements, statements, Statement.pieces_of_not_mem hs, List.map_singleton,
    Text.Chars.trim_of_blank h]
  rfl

/-- A line without separators that is trim is one statement. -/
theorem splitStatements_of_trim {line : String} (hs : ';' ∉ line.toList) (hn : line.toList ≠ [])
    (ht : Text.Chars.trim line.toList = line.toList) : splitStatements line = [line] := by
  rw [splitStatements, statements, Statement.pieces_of_not_mem hs, List.map_singleton, ht,
    List.filter_cons_of_pos (by simpa using hn)]
  simp

end Syntax

end CommandShell
