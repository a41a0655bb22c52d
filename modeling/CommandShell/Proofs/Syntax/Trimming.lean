import CommandShell.Proofs.Substitution.Spans
import CommandShell.Proofs.Syntax.Pieces
import CommandShell.Proofs.Syntax.Words
import CommandShell.Text.Split
import Mathlib.Data.List.DropRight

/-!
The white space at the ends of the pieces of a line. A statement is a piece without it. That leaves
the words as they are if there is nothing but spaces at the ends and none of them is in a quote that
is left open or behind a backslash.
-/

namespace CommandShell

namespace Text.Chars

theorem all_isBlank_trim (cs : List Char) : (trim cs).all isBlank = cs.all isBlank := by
  obtain ⟨right, hr, hs⟩ := exists_eq_trim cs
  have hl : (cs.takeWhile isBlank).all isBlank = true := List.all_takeWhile
  conv_rhs => rw [hs, List.all_append, List.all_append, hl, hr]
  simp

theorem trim_eq_nil_iff {cs : List Char} : trim cs = [] ↔ cs.all isBlank = true := by
  refine ⟨fun h => ?_, trim_of_blank⟩
  rw [← all_isBlank_trim, h]
  rfl

theorem mem_of_mem_trim {c : Char} {cs : List Char} (h : c ∈ trim cs) : c ∈ cs := by
  obtain ⟨right, -, hs⟩ := exists_eq_trim cs
  rw [hs]
  simp [h]

/-! ## Ends -/

section Ends

variable {cs : List Char}

/-- A text with no blank at either end. -/
structure IsTrim (cs : List Char) : Prop where
  first : ∀ c ∈ cs.head?, isBlank c = false
  last : ∀ c ∈ cs.getLast?, isBlank c = false

theorem trim_eq_rdropWhile (cs : List Char) :
    trim cs = (cs.dropWhile isBlank).rdropWhile isBlank :=
  rfl

theorem not_of_mem_getLast?_rdropWhile {p : Char → Bool} {c : Char}
    (h : c ∈ (cs.rdropWhile p).getLast?) : p c = false := by
  obtain ⟨hne, rfl⟩ := List.mem_getLast?_eq_getLast h
  exact Bool.eq_false_iff.mpr (List.rdropWhile_last_not p cs hne)

theorem isTrim_trim (cs : List Char) : IsTrim (trim cs) := by
  refine ⟨fun c hc => ?_, fun c hc => not_of_mem_getLast?_rdropWhile hc⟩
  rw [trim_eq_rdropWhile] at hc
  obtain ⟨rest, hr⟩ := List.rdropWhile_prefix isBlank (cs.dropWhile isBlank)
  have hh : (cs.dropWhile isBlank).head? = some c := by
    rw [← hr, List.head?_append, Option.mem_def.mp hc]
    rfl
  have hn := List.head?_dropWhile_not isBlank cs
  rw [hh] at hn
  simpa using hn

theorem isTrim_toList_trim (s : String) : IsTrim (Text.trim s).toList := by
  rw [Text.trim, String.toList_ofList]
  exact isTrim_trim s.toList

theorem trim_sublist (cs : List Char) : (trim cs).Sublist cs :=
  (List.rdropWhile_prefix isBlank _).sublist.trans (List.dropWhile_sublist isBlank)

theorem IsTrim.trim_eq (h : IsTrim cs) : trim cs = cs :=
  trim_eq_self h.first h.last

/-- What is no shorter when it is trimmed has no blank at either end. -/
theorem isTrim_of_length_le (h : cs.length ≤ (trim cs).length) : IsTrim cs := by
  have ht : IsTrim (trim cs) := isTrim_trim cs
  rwa [(trim_sublist cs).eq_of_length_le h] at ht

end Ends

end Text.Chars

namespace Syntax

/-! ## Cuts without substitutions -/

section Cuts

variable {cs : List Char}

/-- Where no substitution can be open, a line is cut at every separator. -/
theorem Statement.pieces_eq_splitAt (s : Char) (h : '$' ∉ cs) :
    Statement.pieces [s] 0 cs = Text.splitAt (· = s) cs := by
  induction cs with
  | nil => simp [Statement.pieces, Text.splitAt]
  | cons c rest ih =>
      simp only [List.mem_cons, not_or] at h
      rw [Statement.pieces_cons fun hc => h.1 hc.1.symm, Text.splitAt, ih h.2]
      by_cases hc : c = s
      · simp [hc]
      · simp only [hc, decide_false, Bool.false_eq_true, if_false]
        cases Text.splitAt (· = s) rest <;> rfl

theorem mem_of_mem_splitAt {isMark : Char → Bool} {piece : List Char} {c : Char}
    (hp : piece ∈ Text.splitAt isMark cs) (hc : c ∈ piece) : c ∈ cs := by
  induction cs generalizing piece with
  | nil =>
      rw [Text.splitAt, List.mem_singleton] at hp
      simp [hp] at hc
  | cons d rest ih =>
      rw [Text.splitAt] at hp
      split at hp
      · rcases List.mem_cons.mp hp with rfl | hm
        · cases hc
        · exact List.mem_cons_of_mem _ (ih hm hc)
      · split at hp
        · rw [List.mem_singleton] at hp
          subst hp
          exact List.mem_cons.mpr (.inl (List.mem_singleton.mp hc))
        · rename_i first others hs
          rcases List.mem_cons.mp hp with rfl | hm
          · rcases List.mem_cons.mp hc with rfl | hf
            · exact List.mem_cons_self
            · exact List.mem_cons_of_mem _ (ih (by rw [hs]; exact List.mem_cons_self) hf)
          · exact List.mem_cons_of_mem _ (ih (by rw [hs]; exact List.mem_cons_of_mem _ hm) hc)

end Cuts

/-! ## Edges -/

/-- Whether white space behind a text is a part of a word: it stands in a quote that is open there,
or is a space that a backslash takes. -/
def isHeld (before : List Char) (c : Char) : Bool :=
  !Token.closes none (if c = ' ' then before else before ++ [c])

/-- A piece of a line with no white space at its end that is a part of a word. -/
def Loose (piece : List Char) : Prop :=
  ∀ n, (h : n < piece.length) → (piece.drop n).all Text.isBlank = true →
    isHeld (piece.take n) piece[n] = false

instance : DecidablePred Loose := fun piece =>
  inferInstanceAs (Decidable (∀ n, (h : n < piece.length) → _))

/-- A piece of a line with no other white space than spaces at its ends. -/
def Spaced (piece : List Char) : Prop :=
  ∃ lead behind,
    piece = Rendering.spaces lead ++ Text.Chars.trim piece ++ Rendering.spaces behind

/-- What a piece of a line may be read as: without the white space at its ends, or as it is if that
is spaces or there is nothing else in it. -/
inductive Reading (piece : List Char) : String → Prop
  | trimmed : Reading piece (String.ofList (Text.Chars.trim piece))
  | spaced (h : Spaced piece) : Reading piece (String.ofList piece)
  | blank (h : piece.all Text.isBlank = true) : Reading piece (String.ofList piece)

section Edges

variable {cs piece : List Char} {text : String}

theorem words_append_spaces (h : Token.closes none cs = true) (n : Nat) :
    words (cs ++ Rendering.spaces n) = words cs := by
  cases n with
  | zero => simp [Rendering.spaces]
  | succ n =>
      have hn := Rendering.words_spaces n []
      rw [List.append_nil] at hn
      have hs : Rendering.spaces (n + 1) = ' ' :: Rendering.spaces n := rfl
      rw [hs, words_append_space h, hn]
      simp [words, Token.scan, Token.emit]

/-- A text with a space behind it that is not held leaves nothing open. -/
theorem Loose.closes {n : Nat} (h : Loose (cs ++ Rendering.spaces (n + 1))) :
    Token.closes none cs = true := by
  have hl := h cs.length (by simp [Rendering.spaces]) (by
    simp [Rendering.spaces, (by decide : Text.isBlank ' ' = true)])
  simpa [isHeld, Rendering.spaces] using hl

theorem words_trim (hs : Spaced piece) (hl : Loose piece) :
    words (Text.Chars.trim piece) = words piece := by
  obtain ⟨lead, behind, he⟩ := hs
  have hw : words (Rendering.spaces lead ++ Text.Chars.trim piece) =
      words (Text.Chars.trim piece) := Rendering.words_spaces _ _
  rw [← hw]
  conv_rhs => rw [he]
  cases behind with
  | zero => simp [Rendering.spaces]
  | succ n =>
      rw [he] at hl
      exact (words_append_spaces hl.closes _).symm

theorem Reading.isBlankText_eq (h : Reading piece text) :
    Text.isBlankText text = piece.all Text.isBlank := by
  cases h with
  | trimmed => rw [Text.isBlankText, String.toList_ofList, Text.Chars.all_isBlank_trim]
  | spaced | blank => rw [Text.isBlankText, String.toList_ofList]

/-- All readings of a piece have the same words. -/
theorem Reading.tokenize_eq (h : Reading piece text) (hl : Loose piece)
    (hb : piece.all Text.isBlank = false) :
    tokenize text = tokenize (String.ofList (Text.Chars.trim piece)) := by
  cases h with
  | trimmed => rfl
  | spaced h =>
      rw [tokenize, tokenize, String.toList_ofList, String.toList_ofList, words_trim h hl]
  | blank h => simp [h] at hb

theorem Reading.mem (h : Reading piece text) {c : Char} (hc : c ∈ text.toList) : c ∈ piece := by
  cases h with
  | trimmed => exact Text.Chars.mem_of_mem_trim (by rwa [String.toList_ofList] at hc)
  | spaced | blank => rwa [String.toList_ofList] at hc

end Edges

/-- The statements of a line without dollar signs are its pieces, less the blank ones. -/
theorem splitStatements_eq {line : String} (h : '$' ∉ line.toList) :
    splitStatements line =
      ((Text.splitAt (· = ';') line.toList).map fun p =>
        String.ofList (Text.Chars.trim p)).filter (!Text.isBlankText ·) := by
  have hb : ∀ p : List Char, decide (Text.Chars.trim p ≠ []) =
      !Text.isBlankText (String.ofList (Text.Chars.trim p)) := by
    intro p
    rw [Text.isBlankText, String.toList_ofList, Text.Chars.all_isBlank_trim]
    simp only [ne_eq, Text.Chars.trim_eq_nil_iff, decide_not, Bool.decide_eq_true]
  rw [splitStatements, statements, Statement.pieces_eq_splitAt ';' h, List.filter_map,
    List.filter_map, List.map_map]
  exact congrArg _ (List.filter_congr fun p _ => hb p)

end Syntax

end CommandShell
