import CommandShell.Syntax.Token
import Mathlib.Data.List.Basic

/-!
Words as they may be written: piece by piece, each piece bare or in quotes of either kind, with a
backslash before whatever would not stand for itself. However the pieces of a word are written, and
however many spaces stand between the words, reading gives the words that were meant.
-/

namespace CommandShell.Syntax

namespace Rendering

/-- How a piece of a word is written. -/
inductive Style
  | bare
  | double
  | single
  deriving DecidableEq, Repr

namespace Style

/-- The quote that stands on both sides of a piece. -/
def quote? : Style → Option Char
  | bare => none
  | double => some '"'
  | single => some '\''

/-- Whether a character needs a backslash. Within quotes spaces and the other quote need none. -/
def escapes : Style → Char → Bool
  | bare, c => isEscapable c
  | double, c => c = '"' || c = '\\'
  | single, c => c = '\'' || c = '\\'

def escape (s : Style) (c : Char) : List Char :=
  if s.escapes c then ['\\', c] else [c]

end Style

/-- A piece of a word and the way in which it is written. -/
structure Fragment where
  style : Style
  content : List Char
  deriving DecidableEq, Repr

def Fragment.text (f : Fragment) : List Char :=
  f.style.quote?.toList ++ f.content.flatMap f.style.escape ++ f.style.quote?.toList

/-- The word that fragments make together. -/
def content (w : List Fragment) : List Char :=
  w.flatMap Fragment.content

/-- The fragments of a word as they are written, with nothing in between. -/
def text (w : List Fragment) : List Char :=
  w.flatMap Fragment.text

def spaces (n : Nat) : List Char :=
  List.replicate n ' '

/-- Some spaces and then words, each with the number of spaces behind it. -/
def line (lead : Nat) (ws : List (List Fragment × Nat)) : List Char :=
  spaces lead ++ ws.flatMap fun w => text w.1 ++ spaces w.2

/-! ## Fragments -/

section Fragment

variable {c q : Char} {cs rest : List Char}

theorem scan_of_ne (hc : c ≠ '\\') :
    Token.scan none (c :: rest) =
      if isQuote c then Token.scan (some c) rest
      else if c = ' ' then ([], Token.emit (Token.scan none rest))
      else Token.push c (Token.scan none rest) :=
  Token.scan.eq_3 _ _ fun _ _ he _ => hc he

theorem scan_quoted_of_ne (hc : c ≠ '\\') :
    Token.scan (some q) (c :: rest) =
      if c = q then Token.scan none rest else Token.push c (Token.scan (some q) rest) :=
  Token.scan.eq_4 _ _ _ fun _ _ he _ => hc he

theorem scan_open (hq : isQuote q = true) :
    Token.scan none (q :: rest) = Token.scan (some q) rest := by
  have hc : q ≠ '\\' := by
    rintro rfl
    contradiction
  rw [scan_of_ne hc, if_pos hq]

theorem scan_close (hq : isQuote q = true) :
    Token.scan (some q) (q :: rest) = Token.scan none rest := by
  have hc : q ≠ '\\' := by
    rintro rfl
    contradiction
  rw [scan_quoted_of_ne hc, if_pos rfl]

theorem scan_space (rest : List Char) :
    Token.scan none (' ' :: rest) = ([], Token.emit (Token.scan none rest)) :=
  scan_of_ne (by decide)

/-- What needs a backslash is taken as it is behind one. -/
theorem isEscapable_of_escapes {s : Style} (h : s.escapes c = true) : isEscapable c = true := by
  cases s with
  | bare => exact h
  | double =>
      simp only [Style.escapes, Bool.or_eq_true, decide_eq_true_eq] at h
      rcases h with rfl | rfl <;> rfl
  | single =>
      simp only [Style.escapes, Bool.or_eq_true, decide_eq_true_eq] at h
      rcases h with rfl | rfl <;> rfl

/-- What needs no backslash is a part of the word. -/
theorem scan_of_not_escapes {s : Style} (h : s.escapes c = false) :
    Token.scan s.quote? (c :: rest) = Token.push c (Token.scan s.quote? rest) := by
  cases s with
  | bare =>
      simp only [Style.escapes, isEscapable, Bool.or_eq_false_iff, decide_eq_false_iff_not] at h
      obtain ⟨⟨⟨hd, hs⟩, hb⟩, hp⟩ := h
      rw [Style.quote?, scan_of_ne hb, if_neg (by simp [isQuote, hd, hs]), if_neg hp]
  | double =>
      simp only [Style.escapes, Bool.or_eq_false_iff, decide_eq_false_iff_not] at h
      rw [Style.quote?, scan_quoted_of_ne h.2, if_neg h.1]
  | single =>
      simp only [Style.escapes, Bool.or_eq_false_iff, decide_eq_false_iff_not] at h
      rw [Style.quote?, scan_quoted_of_ne h.2, if_neg h.1]

/-- Escaped characters are read as they were, inside the quotes that they were escaped for. -/
theorem scan_escaped (s : Style) (cs rest : List Char) :
    Token.scan s.quote? (cs.flatMap s.escape ++ rest) =
      (cs ++ (Token.scan s.quote? rest).1, (Token.scan s.quote? rest).2) := by
  induction cs with
  | nil => rfl
  | cons c cs ih =>
      rw [List.flatMap_cons, List.append_assoc, Style.escape]
      cases h : s.escapes c with
      | true =>
          simp only [if_true, List.cons_append, List.nil_append, Token.scan,
            isEscapable_of_escapes h, ih]
          rfl
      | false =>
          simp only [Bool.false_eq_true, if_false, List.cons_append, List.nil_append,
            scan_of_not_escapes h, ih]
          rfl

theorem scan_fragment (f : Fragment) :
    Token.scan none (f.text ++ rest) =
      (f.content ++ (Token.scan none rest).1, (Token.scan none rest).2) := by
  obtain ⟨s, cs⟩ := f
  have he := scan_escaped s cs (s.quote?.toList ++ rest)
  rw [Fragment.text, List.append_assoc, List.append_assoc]
  cases s with
  | bare => exact he
  | double =>
      simp only [Style.quote?, Option.toList_some, List.singleton_append] at he ⊢
      rw [scan_open rfl, he, scan_close rfl]
  | single =>
      simp only [Style.quote?, Option.toList_some, List.singleton_append] at he ⊢
      rw [scan_open rfl, he, scan_close rfl]

/-- Fragments without spaces between them make one word. -/
theorem scan_text (w : List Fragment) (rest : List Char) :
    Token.scan none (text w ++ rest) =
      (content w ++ (Token.scan none rest).1, (Token.scan none rest).2) := by
  induction w with
  | nil => rfl
  | cons f w ih =>
      have ht : text (f :: w) ++ rest = f.text ++ (text w ++ rest) := by simp [text]
      rw [ht, scan_fragment, ih, content, content, List.flatMap_cons, List.append_assoc]

/-- Characters none of which needs a backslash. -/
theorem scan_plain (h : ∀ c ∈ cs, isEscapable c = false) :
    Token.scan none (cs ++ rest) = (cs ++ (Token.scan none rest).1, (Token.scan none rest).2) := by
  have hc : ∀ c ∈ cs, Style.bare.escape c = [c] :=
    fun c hc => if_neg (by simp [Style.escapes, h c hc])
  have hs := scan_escaped .bare cs rest
  rwa [List.flatMap_congr hc, List.flatMap_singleton'] at hs

end Fragment

/-! ## Words -/

section Words

variable {w : List Fragment} {rest : List Char}

theorem emit_of_ne_nil {word : List Char} (h : word ≠ []) (later : List (List Char)) :
    Token.emit (word, later) = word :: later := by
  obtain ⟨c, cs, rfl⟩ := List.exists_cons_of_ne_nil h
  rfl

theorem words_space (rest : List Char) : words (' ' :: rest) = words rest := by
  rw [words, scan_space]
  rfl

theorem words_spaces (n : Nat) (rest : List Char) : words (spaces n ++ rest) = words rest := by
  induction n with
  | zero => rfl
  | succ n ih =>
      rw [spaces, List.replicate_succ, List.cons_append, words_space]
      exact ih

/-- A word reaches up to the next space. -/
theorem words_text_space (h : content w ≠ []) (rest : List Char) :
    words (text w ++ ' ' :: rest) = content w :: words rest := by
  rw [words, scan_text, scan_space, List.append_nil, emit_of_ne_nil h]
  rfl

theorem words_text (h : content w ≠ []) : words (text w) = [content w] := by
  have hs := scan_text w []
  rw [List.append_nil] at hs
  rw [words, hs, Token.scan, List.append_nil, emit_of_ne_nil h]

theorem words_line (lead : Nat) {ws : List (List Fragment × Nat)}
    (hc : ∀ w ∈ ws, content w.1 ≠ []) (hg : ∀ w ∈ ws.dropLast, 0 < w.2) :
    words (line lead ws) = ws.map fun w => content w.1 := by
  rw [line, words_spaces]
  induction ws with
  | nil => rfl
  | cons w ws ih =>
      obtain ⟨w, gap⟩ := w
      rw [List.forall_mem_cons] at hc
      rw [List.flatMap_cons, List.append_assoc, List.map_cons]
      cases gap with
      | zero =>
          -- Only the last word may have no space behind it.
          have hn : ws = [] := by
            by_contra hn
            rw [List.dropLast_cons_of_ne_nil hn, List.forall_mem_cons] at hg
            exact absurd hg.1 (Nat.lt_irrefl 0)
          subst hn
          simp [spaces, words_text hc.1]
      | succ gap =>
          have hs : spaces (gap + 1) = ' ' :: spaces gap := rfl
          rw [hs, List.cons_append, words_text_space hc.1, words_spaces, ih hc.2]
          intro v hv
          refine hg v ?_
          rw [List.dropLast_cons_of_ne_nil (List.ne_nil_of_mem (List.dropLast_subset _ hv))]
          exact List.mem_cons_of_mem _ hv

/-- A word without characters is none. -/
theorem nil_not_mem_words (cs : List Char) : [] ∉ words cs := by
  have he : ∀ r : List Char × List (List Char), [] ∉ r.2 → [] ∉ Token.emit r := by
    rintro ⟨_ | ⟨c, word⟩, later⟩ h
    · exact h
    · simpa [Token.emit] using h
  have hs : ∀ open_ cs, [] ∉ (Token.scan open_ cs).2 := by
    intro open_ cs
    fun_induction Token.scan open_ cs with
    | case1 => exact List.not_mem_nil
    | case2 open_ c rest _ ih => exact ih
    | case3 open_ c rest _ ih => exact ih
    | case4 c rest _ _ ih => exact ih
    | case5 rest _ _ ih => exact he _ ih
    | case6 c rest _ _ _ ih => exact ih
    | case7 q rest _ ih => exact ih
    | case8 q c rest _ _ ih => exact ih
  exact he _ (hs none cs)

end Words

end Rendering

open Rendering (Fragment content line)

/-- Words that are written in fragments of any styles, with spaces around them, are read as they
were meant. -/
theorem tokenize_rendered :
    (∀ (lead : Nat) (ws : List (List Fragment × Nat)),
      (∀ w ∈ ws, content w.1 ≠ []) → (∀ w ∈ ws.dropLast, 0 < w.2) →
      tokenize (String.ofList (line lead ws)) = ws.map fun w => String.ofList (content w.1)) ∧
    (∀ tokens : List String, (∃ text, tokenize text = tokens) ↔ "" ∉ tokens) := by
  have hline : ∀ (lead : Nat) (ws : List (List Fragment × Nat)),
      (∀ w ∈ ws, content w.1 ≠ []) → (∀ w ∈ ws.dropLast, 0 < w.2) →
      tokenize (String.ofList (line lead ws)) = ws.map fun w => String.ofList (content w.1) := by
    intro lead ws hc hg
    rw [tokenize, String.toList_ofList, Rendering.words_line lead hc hg, List.map_map]
    rfl
  refine ⟨hline, fun tokens => ⟨?_, ?_⟩⟩
  · rintro ⟨text, rfl⟩ hm
    obtain ⟨word, hw, he⟩ := List.mem_map.mp hm
    rw [String.ofList_eq_empty_iff] at he
    exact Rendering.nil_not_mem_words text.toList (he ▸ hw)
  · intro h
    -- One way to write them is each in double quotes with a space behind it.
    let ws := tokens.map fun t => ([(⟨.double, t.toList⟩ : Fragment)], 1)
    have hw : ∀ w ∈ ws, content w.1 ≠ [] ∧ 0 < w.2 := by
      intro w hm
      obtain ⟨t, ht, rfl⟩ := List.mem_map.mp hm
      refine ⟨?_, Nat.one_pos⟩
      have hne : t ≠ "" := fun he => h (he ▸ ht)
      simpa [content] using hne
    refine ⟨String.ofList (line 0 ws), ?_⟩
    rw [hline 0 ws (fun w hm => (hw w hm).1) fun w hm => (hw w (List.dropLast_subset _ hm)).2,
      List.map_map]
    simp [Function.comp_def, content]

/-- A word of three styles with quotes and a backslash in it, and a word of one space. -/
theorem tokenize_rendered_mixed :
    let word : List Fragment :=
      [⟨.bare, "a'".toList⟩, ⟨.double, "b 'c\"".toList⟩, ⟨.single, "\"\\".toList⟩]
    let ws : List (List Fragment × Nat) := [(word, 2), ([⟨.bare, " ".toList⟩], 0)]
    ((∀ w ∈ ws, content w.1 ≠ []) ∧ ∀ w ∈ ws.dropLast, 0 < w.2) ∧
      line 1 ws = " a\\'\"b 'c\\\"\"'\"\\\\'  \\ ".toList ∧
      tokenize " a\\'\"b 'c\\\"\"'\"\\\\'  \\ " = ["a'b 'c\"\"\\", " "] := by
  intro word ws
  have hc : ∀ w ∈ ws, content w.1 ≠ [] := by decide
  have hg : ∀ w ∈ ws.dropLast, 0 < w.2 := by decide
  have hl : line 1 ws = " a\\'\"b 'c\\\"\"'\"\\\\'  \\ ".toList := by decide
  have ht := tokenize_rendered.1 1 ws hc hg
  rw [hl, String.ofList_toList] at ht
  exact ⟨⟨hc, hg⟩, hl, ht⟩

end CommandShell.Syntax
