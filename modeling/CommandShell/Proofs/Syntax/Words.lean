import CommandShell.Proofs.Syntax.Rendering
import CommandShell.Text.Pad
import Mathlib.Data.List.Chain

/-!
The words of texts that are put together. A text that leaves nothing open keeps its words where
others follow behind a space. Words that are joined with spaces are read back as they were exactly
if there is nothing among them but what stands for itself.
-/

namespace CommandShell.Syntax

/-! ## One text behind another -/

namespace Token

/-- Whether the reading of a text ends outside quotes and behind no backslash that waits for a
character. -/
def closes : Option Char → List Char → Bool
  | open_, [] => open_.isNone
  | _, ['\\'] => false
  | open_, '\\' :: c :: rest =>
      if isEscapable c then closes open_ rest else closes open_ (c :: rest)
  | none, c :: rest => if isQuote c then closes (some c) rest else closes none rest
  | some q, c :: rest => if c = q then closes none rest else closes (some q) rest

theorem ne_backslash {c : Char} {cs : List Char} (hn : c = '\\' → cs = [] → False)
    (hb : ∀ d rest, c = '\\' → cs = d :: rest → False) : c ≠ '\\' := by
  rintro rfl
  cases cs with
  | nil => exact hn rfl rfl
  | cons d rest => exact hb d rest rfl rfl

theorem emit_append (word : List Char) (later more : List (List Char)) :
    emit (word, later ++ more) = emit (word, later) ++ more := by
  cases word <;> rfl

/-- Behind a text that leaves nothing open a space ends its last word. -/
theorem scan_append_space {open_ : Option Char} {cs : List Char} (h : closes open_ cs = true)
    (rest : List Char) :
    scan open_ (cs ++ ' ' :: rest) = ((scan open_ cs).1, (scan open_ cs).2 ++ words rest) := by
  fun_induction closes open_ cs with
  | case1 open_ =>
      obtain rfl := Option.isNone_iff_eq_none.mp h
      exact Rendering.scan_space rest
  | case2 => contradiction
  | case3 open_ c cs hc ih =>
      simp only [List.cons_append, scan, hc, if_true, ih h]
      rfl
  | case4 open_ c cs hc ih =>
      simp only [List.cons_append, scan, hc, Bool.false_eq_true, if_false]
      rw [← List.cons_append, ih h]
      rfl
  | case5 c cs hn hb hq ih =>
      have hc := ne_backslash hn hb
      rw [List.cons_append, Rendering.scan_of_ne hc, Rendering.scan_of_ne hc, if_pos hq, if_pos hq,
        ih h]
  | case6 c cs hn hb hq ih =>
      have hc := ne_backslash hn hb
      rw [List.cons_append, Rendering.scan_of_ne hc, Rendering.scan_of_ne hc, if_neg hq, if_neg hq,
        ih h]
      split
      · rw [emit_append]
      · rfl
  | case7 q cs hn hb ih =>
      have hc := ne_backslash hn hb
      rw [List.cons_append, Rendering.scan_quoted_of_ne hc, Rendering.scan_quoted_of_ne hc,
        if_pos rfl, if_pos rfl, ih h]
  | case8 q c cs hn hb hq ih =>
      have hc := ne_backslash hn hb
      rw [List.cons_append, Rendering.scan_quoted_of_ne hc, Rendering.scan_quoted_of_ne hc,
        if_neg hq, if_neg hq, ih h]
      rfl

end Token

theorem words_append_space {cs : List Char} (h : Token.closes none cs = true) (rest : List Char) :
    words (cs ++ ' ' :: rest) = words cs ++ words rest := by
  rw [words, Token.scan_append_space h, Token.emit_append]
  rfl

/-- The words of two texts with a space between them, the first of which leaves nothing open. -/
theorem tokenize_append_space {a : String} (h : Token.closes none a.toList = true) (b : String) :
    tokenize (a ++ " " ++ b) = tokenize a ++ tokenize b := by
  have ht : (a ++ " " ++ b).toList = a.toList ++ ' ' :: b.toList := by simp
  rw [tokenize, ht, words_append_space h, List.map_append]
  rfl

/-- A word in which nothing needs a backslash, and what follows it behind a space. -/
theorem tokenize_word_space {word : String} (hn : word ≠ "")
    (he : ∀ c ∈ word.toList, isEscapable c = false) (rest : String) :
    tokenize (word ++ " " ++ rest) = word :: tokenize rest := by
  have ht : (word ++ " " ++ rest).toList = word.toList ++ ' ' :: rest.toList := by simp
  have hw : word.toList ≠ [] := by simpa using hn
  rw [tokenize, ht, words, Rendering.scan_plain he, Rendering.scan_space, List.append_nil,
    Rendering.emit_of_ne_nil hw, List.map_cons, String.ofList_toList]
  rfl

/-! ## Texts that stand for themselves -/

/-- A text in which nothing but spaces is read as something else: there is no quote, and no
backslash directly before a character that it would escape. -/
structure Literal (cs : List Char) : Prop where
  no_quote : ∀ c ∈ cs, isQuote c = false
  no_escape : cs.IsChain fun c d => c = '\\' → isEscapable d = false

theorem literal_iff {cs : List Char} :
    Literal cs ↔ (∀ c ∈ cs, isQuote c = false) ∧
      cs.IsChain fun c d => c = '\\' → isEscapable d = false :=
  ⟨fun h => ⟨h.no_quote, h.no_escape⟩, fun h => ⟨h.1, h.2⟩⟩

instance : DecidablePred Literal := fun _ =>
  @decidable_of_iff' _ _ literal_iff
    (@instDecidableAnd _ _ (List.decidableBAll _ _) inferInstance)

/-- Words that stand for themselves when they are joined. -/
structure Plain (ws : List String) : Prop where
  literal : Literal (Text.joinWords ws).toList
  no_space : ∀ w ∈ ws, ' ' ∉ w.toList

namespace Literal

variable {c : Char} {cs rest : List Char}

theorem of_append (h : Literal (cs ++ rest)) : Literal rest :=
  ⟨fun c hc => h.no_quote c (List.mem_append_right _ hc), h.no_escape.right_of_append⟩

theorem tail (h : Literal (c :: rest)) : Literal rest :=
  of_append (List.singleton_append ▸ h)

/-- A character other than a space is a part of the word in hand. -/
theorem scan_cons (h : Literal (c :: rest)) (hs : c ≠ ' ') :
    Token.scan none (c :: rest) = Token.push c (Token.scan none rest) := by
  have hq : isQuote c = false := h.no_quote c List.mem_cons_self
  by_cases hc : c = '\\'
  · subst hc
    cases rest with
    | nil => rfl
    | cons d rest =>
        have hd : isEscapable d = false := (List.isChain_cons.mp h.no_escape).1 d rfl rfl
        simp only [Token.scan, hd, Bool.false_eq_true, if_false]
  · rw [Rendering.scan_of_ne hc, hq, if_neg Bool.false_ne_true, if_neg hs]

theorem scan_append (h : Literal (cs ++ rest)) (hs : ' ' ∉ cs) :
    Token.scan none (cs ++ rest) = (cs ++ (Token.scan none rest).1, (Token.scan none rest).2) := by
  induction cs with
  | nil => rfl
  | cons c cs ih =>
      simp only [List.mem_cons, not_or] at hs
      rw [List.cons_append] at h ⊢
      rw [h.scan_cons (Ne.symm hs.1), ih h.tail hs.2]
      rfl

/-- A character of any kind in front of a literal text, unless it is a quote or would escape. -/
theorem cons (h : Literal rest) (hq : isQuote c = false)
    (he : ∀ d ∈ rest.head?, c = '\\' → isEscapable d = false) : Literal (c :: rest) :=
  ⟨List.forall_mem_cons.mpr ⟨hq, h.no_quote⟩, List.isChain_cons.mpr ⟨he, h.no_escape⟩⟩

/-- Every space ends a word. -/
theorem space_not_mem (h : Literal cs) : ∀ w ∈ words cs, ' ' ∉ w := by
  have he : ∀ r : List Char × List (List Char), (∀ w ∈ r.1 :: r.2, ' ' ∉ w) →
      ∀ w ∈ Token.emit r, ' ' ∉ w := by
    rintro ⟨_ | ⟨c, word⟩, later⟩ hr
    · exact fun w hw => hr w (List.mem_cons_of_mem _ hw)
    · exact hr
  have hs : ∀ w ∈ (Token.scan none cs).1 :: (Token.scan none cs).2, ' ' ∉ w := by
    induction cs with
    | nil => simp [Token.scan]
    | cons c rest ih =>
        specialize ih h.tail
        by_cases hc : c = ' '
        · subst hc
          rw [Rendering.scan_space]
          exact List.forall_mem_cons.mpr ⟨List.not_mem_nil, he _ ih⟩
        · rw [List.forall_mem_cons] at ih
          rw [h.scan_cons hc]
          refine List.forall_mem_cons.mpr ⟨?_, ih.2⟩
          simp [Token.push, Ne.symm hc, ih.1]
  exact he _ hs

end Literal

/-! ## Nothing is lost in a literal text only -/

/-- How many characters words take with a space behind each. -/
@[simp] def extent : List (List Char) → Nat
  | [] => 0
  | w :: ws => w.length + 1 + extent ws

namespace Token

theorem extent_emit_le (r : List Char × List (List Char)) :
    extent (emit r) ≤ r.1.length + 1 + extent r.2 := by
  obtain ⟨_ | ⟨c, word⟩, later⟩ := r
  · simp [emit]
  · simp [emit]

theorem extent_scan_le (open_ : Option Char) (cs : List Char) :
    (scan open_ cs).1.length + extent (scan open_ cs).2 ≤ cs.length := by
  fun_induction scan open_ cs with
  | case1 => simp
  | case2 open_ c rest hc ih =>
      simp only [push, List.length_cons]
      omega
  | case3 open_ c rest hc ih =>
      simp only [push, List.length_cons] at ih ⊢
      omega
  | case4 c rest _ _ ih =>
      simp only [List.length_cons]
      omega
  | case5 rest _ _ ih =>
      have he := extent_emit_le (scan none rest)
      simp only [List.length_nil, List.length_cons]
      omega
  | case6 c rest _ _ _ ih =>
      simp only [push, List.length_cons]
      omega
  | case7 q rest _ ih =>
      simp only [List.length_cons]
      omega
  | case8 q c rest _ _ ih =>
      simp only [push, List.length_cons]
      omega

/-- A text of which every character is in a word or ends one is literal: a quote that opens or
closes and a backslash that escapes do neither. -/
theorem literal_of_le_extent {cs : List Char}
    (h : cs.length ≤ (scan none cs).1.length + extent (scan none cs).2) : Literal cs := by
  induction cs with
  | nil => exact ⟨by simp, .nil⟩
  | cons c rest ih =>
      by_cases hc : c = '\\'
      · subst hc
        cases rest with
        | nil => exact ⟨by simp [isQuote], .singleton _⟩
        | cons d rest =>
            cases hd : isEscapable d with
            | true =>
                have hle := extent_scan_le none rest
                simp only [scan, hd, if_true, push, List.length_cons] at h
                omega
            | false =>
                simp only [scan, hd, Bool.false_eq_true, if_false, push, List.length_cons] at h
                refine (ih (by simpa only [List.length_cons] using by omega)).cons rfl ?_
                rintro _ ⟨⟩ -
                exact hd
      · rw [Rendering.scan_of_ne hc] at h
        have hn : ∀ d ∈ rest.head?, c = '\\' → isEscapable d = false := fun _ _ he => absurd he hc
        cases hq : isQuote c with
        | true =>
            have hle := extent_scan_le (some c) rest
            simp only [hq, if_true, List.length_cons] at h
            omega
        | false =>
            simp only [hq, Bool.false_eq_true, if_false] at h
            split at h
            · have he := extent_emit_le (scan none rest)
              simp only [List.length_nil, List.length_cons] at h
              exact (ih (by omega)).cons hq hn
            · simp only [push, List.length_cons] at h
              exact (ih (by omega)).cons hq hn

end Token

theorem literal_of_lt_extent {cs : List Char} (h : cs.length < extent (words cs)) : Literal cs := by
  have he := Token.extent_emit_le (Token.scan none cs)
  rw [words] at h
  exact Token.literal_of_le_extent (by omega)

/-! ## Words joined -/

section Joined

variable {w : String} {ws : List String}

theorem joinWords_cons (hn : ws ≠ []) (w : String) :
    (Text.joinWords (w :: ws)).toList = w.toList ++ ' ' :: (Text.joinWords ws).toList := by
  rw [Text.joinWords, Text.joinWords, String.intercalate_cons_of_ne_nil hn]
  simp

theorem length_joinWords (hn : ws ≠ []) :
    (Text.joinWords ws).toList.length + 1 = extent (ws.map String.toList) := by
  induction ws with
  | nil => contradiction
  | cons w ws ih =>
      by_cases hw : ws = []
      · subst hw
        simp [Text.joinWords]
      · have hl := ih hw
        rw [joinWords_cons hw, List.map_cons, extent, ← hl, List.length_append,
          List.length_cons]
        omega

/-- Words that stand for themselves are read back. -/
theorem words_joinWords (hl : Literal (Text.joinWords ws).toList)
    (hs : ∀ w ∈ ws, ' ' ∉ w.toList) (hne : ∀ w ∈ ws, w ≠ "") :
    words (Text.joinWords ws).toList = ws.map String.toList := by
  induction ws with
  | nil => rfl
  | cons w ws ih =>
      rw [List.forall_mem_cons] at hs hne
      have hw : w.toList ≠ [] := by simpa using hne.1
      by_cases hn : ws = []
      · subst hn
        have hj : (Text.joinWords [w]).toList = w.toList ++ [] := by simp [Text.joinWords]
        rw [hj] at hl ⊢
        rw [words, hl.scan_append hs.1, Token.scan, List.append_nil, Rendering.emit_of_ne_nil hw]
        rfl
      · rw [joinWords_cons hn] at hl ⊢
        rw [words, hl.scan_append hs.1, Rendering.scan_space, List.append_nil,
          Rendering.emit_of_ne_nil hw, List.map_cons, ← ih hl.of_append.tail hs.2 hne.2]
        rfl

/-- Joined with spaces, words are read back as they were if and only if they are plain. -/
theorem tokenize_joinWords_iff (hne : ∀ w ∈ ws, w ≠ "") :
    tokenize (Text.joinWords ws) = ws ↔ Plain ws := by
  have ht : tokenize (Text.joinWords ws) = ws ↔
      words (Text.joinWords ws).toList = ws.map String.toList := by
    rw [tokenize]
    constructor
    · intro h
      conv_rhs => rw [← h]
      simp [Function.comp_def]
    · intro h
      rw [h]
      simp [Function.comp_def]
  rw [ht]
  constructor
  · intro h
    by_cases hn : ws = []
    · subst hn
      exact ⟨⟨by simp [Text.joinWords], .nil⟩, by simp⟩
    · have hl : Literal (Text.joinWords ws).toList := by
        have hlen := length_joinWords hn
        exact literal_of_lt_extent (by rw [h]; omega)
      refine ⟨hl, fun w hw => hl.space_not_mem w.toList ?_⟩
      rw [h]
      exact List.mem_map_of_mem hw
  · intro h
    exact words_joinWords h.literal h.no_space hne

end Joined

end CommandShell.Syntax
