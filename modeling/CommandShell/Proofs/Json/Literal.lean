import CommandShell.Json.Lexeme
import CommandShell.Json.Writer

/-!
The words that a JSON text begins with, as the writer puts them: marks, strings, names and whole
numbers. Places matter to faults alone, so a word is the same wherever the text stands.
-/

namespace CommandShell.Json.Lexeme

/-- The first word of a text, and what stands after it. -/
def Begins (cs : List Char) (w : Lexeme) (rest : List Char) : Prop :=
  ∀ position, ∃ next,
    split position cs = ((w, position) :: (split next rest).1, (split next rest).2)

variable {c : Char} {cs rest : List Char}

theorem split_space (h : isSpace c = true) (position : Nat) (cs : List Char) :
    split position (c :: cs) = split (position + 1) cs := by
  rw [split, if_pos h]

theorem begins_mark {w : Lexeme} (h : punctuation? c = some w) (rest : List Char) :
    Begins (c :: rest) w rest := by
  have hs : isSpace c = false := by
    cases hs : isSpace c with
    | false => rfl
    | true =>
        simp only [isSpace, Bool.or_eq_true, decide_eq_true_eq] at hs
        rcases hs with ((rfl | rfl) | rfl) | rfl <;> contradiction
  intro position
  exact ⟨position + 1, by simp [split, hs, h]⟩

/-! ## Strings -/

/-- An escaped character is a backslash with a letter, a backslash with a code, or itself. -/
theorem escape_cases (c : Char) :
    (∃ e ∈ ['"', '\\', 'n', 'r', 't', 'f', 'b'],
        Writer.escape c = ['\\', e] ∧ plainEscape? e = some c) ∨
      (Writer.escape c = '\\' :: 'u' :: Text.hex 4 c.toNat ∧ c.toNat < 0x20) ∨
      (Writer.escape c = [c] ∧ c ≠ '"' ∧ c ≠ '\\' ∧ 0x20 ≤ c.toNat) := by
  by_cases hmem : c ∈ ['"', '\\', '\n', '\r', '\t', '\x0c', '\x08']
  · have hall : ∀ c ∈ ['"', '\\', '\n', '\r', '\t', '\x0c', '\x08'],
        ∃ e ∈ ['"', '\\', 'n', 'r', 't', 'f', 'b'],
          Writer.escape c = ['\\', e] ∧ plainEscape? e = some c := by
      simp [Writer.escape, plainEscape?]
    exact .inl (hall c hmem)
  · simp only [List.mem_cons, List.not_mem_nil, or_false, not_or] at hmem
    obtain ⟨hquote, hback, hn, hr, ht, hf, hb⟩ := hmem
    have hescape : Writer.escape c
        = if c.toNat < 0x20 then '\\' :: 'u' :: Text.hex 4 c.toNat else [c] := by
      simp only [Writer.escape, hquote, hback, hn, hr, ht, hf, hb, if_false]
    by_cases hlow : c.toNat < 0x20
    · exact .inr (.inl ⟨by rw [hescape, if_pos hlow], hlow⟩)
    · exact .inr (.inr ⟨by rw [hescape, if_neg hlow], hquote, hback, Nat.le_of_not_lt hlow⟩)

theorem hexQuad?_hex {n : Nat} (h : n < 0x20) :
    ∃ a b c d, Text.hex 4 n = [a, b, c, d] ∧ hexQuad? a b c d = some n := by
  have hall : ∀ n < 0x20,
      Text.hex 4 n = ['0', '0', (n / 16).digitChar, (n % 16).digitChar] ∧
        hexQuad? '0' '0' (n / 16).digitChar (n % 16).digitChar = some n := by decide
  exact ⟨_, _, _, _, hall n h⟩

theorem chars_named {n : Nat} (h : n < 0x20) (pieces : List Piece) :
    Piece.chars (.named n :: pieces) = Char.ofNat n :: Piece.chars pieces := by
  have hhalf : Text.Surrogate.isHigh n = false ∧ Text.Surrogate.isLow n = false := by
    simp only [Text.Surrogate.isHigh, Text.Surrogate.isLow, Bool.and_eq_false_iff,
      decide_eq_false_iff_not]
    omega
  have hplace : Text.Code.place? n = none := by
    have hlow : ¬Text.Code.setAside ≤ n := by simp only [Text.Code.setAside]; omega
    simp [Text.Code.place?, Text.Surrogate.isHalf, hhalf, hlow]
  have hhold : Text.Code.hold n = [Char.ofNat n] := by rw [Text.Code.hold, hplace]
  cases pieces with
  | nil => simp [Piece.chars, hhold]
  | cons p rest => cases p <;> simp [Piece.chars, hhold, hhalf]

section ReadString

variable {start position stop n : Nat} {pieces : List Piece}

theorem readString_letter {e : Char} (he : e ≠ 'u') (hc : plainEscape? e = some c)
    (h : readString start (position + 2) cs = .ok (pieces, rest, stop)) :
    readString start position ('\\' :: e :: cs) = .ok (.plain c :: pieces, rest, stop) := by
  rw [readString.eq_4, if_neg he, hc]
  · simp only [h]
  · rintro _ _ _ _ _ rfl
    contradiction

theorem readString_code (hn : n < 0x20) (hcs : cs.isEmpty = false)
    (h : readString start (position + 6) cs = .ok (pieces, rest, stop)) :
    readString start position ('\\' :: 'u' :: (Text.hex 4 n ++ cs))
      = .ok (.named n :: pieces, rest, stop) := by
  obtain ⟨w, x, y, z, hhex, hquad⟩ := hexQuad?_hex hn
  rw [hhex]
  simp only [List.cons_append, List.nil_append]
  rw [readString, hquad]
  simp only [hcs, Bool.false_eq_true, if_false, h]

theorem readString_plain (hquote : c ≠ '"') (hback : c ≠ '\\') (hspace : 0x20 ≤ c.toNat)
    (h : readString start (position + 1) cs = .ok (pieces, rest, stop)) :
    readString start position (c :: cs) = .ok (.plain c :: pieces, rest, stop) := by
  rw [readString, if_neg hback, if_neg (Nat.not_lt.2 hspace)]
  · simp only [h]
  · exact hquote
  · exact fun _ _ _ _ _ he => absurd he hback
  · exact fun _ _ he => absurd he hback

end ReadString

/-- Escaped characters are read back up to the closing quote. -/
theorem readString_escaped (s rest : List Char) (start position : Nat) :
    ∃ pieces stop, Piece.chars pieces = s ∧
      readString start position (s.flatMap Writer.escape ++ '"' :: rest)
        = .ok (pieces, rest, stop) := by
  induction s generalizing position with
  | nil => exact ⟨[], position + 1, rfl, rfl⟩
  | cons c s ih =>
      rw [List.flatMap_cons, List.append_assoc]
      obtain ⟨e, hmem, hc, hplain⟩ | ⟨hc, hlow⟩ | ⟨hc, hquote, hback, hspace⟩ := escape_cases c
      · have he : e ≠ 'u' := by
          rintro rfl
          simp at hmem
        obtain ⟨pieces, stop, hchars, hread⟩ := ih (position + 2)
        rw [hc]
        exact ⟨.plain c :: pieces, stop, by rw [Piece.chars, hchars],
          readString_letter he hplain hread⟩
      · have hmore : (s.flatMap Writer.escape ++ '"' :: rest).isEmpty = false := by simp
        obtain ⟨pieces, stop, hchars, hread⟩ := ih (position + 6)
        rw [hc]
        exact ⟨.named c.toNat :: pieces, stop,
          by rw [chars_named hlow, hchars, Char.ofNat_toNat], readString_code hlow hmore hread⟩
      · obtain ⟨pieces, stop, hchars, hread⟩ := ih (position + 1)
        rw [hc]
        exact ⟨.plain c :: pieces, stop, by rw [Piece.chars, hchars],
          readString_plain hquote hback hspace hread⟩

theorem begins_string (s : String) (rest : List Char) :
    Begins (Writer.string s ++ rest) (.string s) rest := by
  intro position
  obtain ⟨pieces, stop, hchars, hread⟩ :=
    readString_escaped s.toList rest position (position + 1)
  refine ⟨stop, ?_⟩
  have hsplit : Writer.string s ++ rest
      = '"' :: (s.toList.flatMap Writer.escape ++ '"' :: rest) := by
    simp [Writer.string]
  rw [hsplit, split, if_neg (by decide), show punctuation? '"' = none from rfl]
  simp only [if_true]
  split
  · next kind place he => rw [hread] at he; contradiction
  · next pieces' rest' stop' he =>
      rw [hread] at he
      cases he
      rw [hchars, String.ofList_toList]

/-! ## Names -/

theorem begins_scalar {w : Lexeme} (hs : isSpace c = false) (hp : punctuation? c = none)
    (hq : c ≠ '"') (h : readScalar (c :: cs) = some (w, rest)) : Begins (c :: cs) w rest := by
  intro position
  refine ⟨position + (cs.length + 1 - rest.length), ?_⟩
  rw [split, if_neg (by simp [hs]), hp]
  simp only [if_neg hq]
  split
  · next he => rw [h] at he; contradiction
  · next w' rest' he =>
      rw [h] at he
      cases he
      rfl

theorem begins_null (rest : List Char) : Begins ("null".toList ++ rest) (.scalar .null) rest :=
  begins_scalar rfl rfl (by decide) rfl

theorem begins_true (rest : List Char) :
    Begins ("true".toList ++ rest) (.scalar (.bool true)) rest :=
  begins_scalar rfl rfl (by decide) rfl

theorem begins_false (rest : List Char) :
    Begins ("false".toList ++ rest) (.scalar (.bool false)) rest :=
  begins_scalar rfl rfl (by decide) rfl

/-! ## Whole numbers -/

/-- A text with which no number goes on. -/
def EndsNumber (cs : List Char) : Prop :=
  ∀ c ∈ cs.head?, isDigit c = false ∧ c ≠ '.' ∧ c ≠ 'e' ∧ c ≠ 'E'

variable {n : Nat}

theorem isDigit_of_mem_toDigits (h : c ∈ Nat.toDigits 10 n) : isDigit c = true := by
  have hd : c.isDigit = true := Nat.isDigit_of_mem_toDigits (by decide) (by decide) h
  exact hd

theorem ofDigits_toDigits (n : Nat) : Decimal.ofDigits (digitValues (Nat.toDigits 10 n)) = n := by
  rw [Decimal.ofDigits, digitValues, List.foldl_map]
  exact Nat.ofDigitChars_ten_toDigits

/-- Only zero is written with a zero at its head. -/
theorem toDigits_cons (n : Nat) : ∃ c cs, Nat.toDigits 10 n = c :: cs ∧ (c = '0' → n = 0) := by
  induction n using Nat.strongRecOn with
  | ind n ih =>
      rcases Nat.lt_or_ge n 10 with hlt | hge
      · exact ⟨_, [], Nat.toDigits_of_lt_base hlt, Nat.digitChar_eq_zero.1⟩
      · obtain ⟨c, cs, hc, hzero⟩ := ih (n / 10) (by omega)
        refine ⟨c, cs ++ [(n % 10).digitChar], ?_, fun he => ?_⟩
        · rw [Nat.toDigits_of_base_le (by decide) hge, hc, List.cons_append]
        · have := hzero he
          omega

theorem readWhole_toDigits (h : EndsNumber rest) :
    readWhole (Nat.toDigits 10 n ++ rest) = (Nat.toDigits 10 n, rest) := by
  rcases Nat.eq_zero_or_pos n with rfl | hpos
  · rfl
  · have hrest : rest.takeWhile isDigit = [] ∧ rest.dropWhile isDigit = rest := by
      cases rest with
      | nil => exact ⟨rfl, rfl⟩
      | cons c cs =>
          have hc : isDigit c = false := (h c rfl).1
          simp [hc]
    have hdigits : ∀ c ∈ Nat.toDigits 10 n, isDigit c = true := fun c => isDigit_of_mem_toDigits
    obtain ⟨c, cs, hcs, hzero⟩ := toDigits_cons n
    rw [readWhole, List.takeWhile_append_of_pos hdigits, List.dropWhile_append_of_pos hdigits,
      hrest.1, hrest.2, List.append_nil]
    rintro tail he
    rw [hcs, List.cons_append, List.cons.injEq] at he
    exact Nat.ne_of_gt hpos (hzero he.1)

theorem readFraction_of_endsNumber (h : EndsNumber rest) : readFraction rest = ([], rest) := by
  cases rest with
  | nil => rfl
  | cons c cs =>
      rw [readFraction]
      rintro _ _ ⟨rfl, -⟩
      exact (h _ rfl).2.1 rfl

theorem readExponent_of_endsNumber (h : EndsNumber rest) : readExponent rest = (none, rest) := by
  cases rest with
  | nil => rfl
  | cons c cs =>
      obtain ⟨-, -, he, hE⟩ := h c rfl
      simp [readExponent, he, hE]

theorem readNumber_toDigits (h : EndsNumber rest)
    (hlen : (Nat.toDigits 10 n).length ≤ maxDigits) (negative : Bool) :
    readNumber negative (Nat.toDigits 10 n ++ rest)
      = some (.scalar (.int (Decimal.signed negative n)), rest) := by
  have hne : (Nat.toDigits 10 n).isEmpty = false := by simp
  simp [readNumber, readWhole_toDigits h, readFraction_of_endsNumber h,
    readExponent_of_endsNumber h, hne, Nat.not_lt.2 hlen, ofDigits_toDigits]

theorem ne_of_isDigit {d : Char} (h : isDigit c = true) (hd : isDigit d = false) : c ≠ d := by
  rintro rfl
  rw [h] at hd
  contradiction

theorem isSpace_of_isDigit (h : isDigit c = true) : isSpace c = false := by
  simp [isSpace, ne_of_isDigit h (d := ' ') rfl, ne_of_isDigit h (d := '\t') rfl,
    ne_of_isDigit h (d := '\n') rfl, ne_of_isDigit h (d := '\r') rfl]

theorem punctuation?_of_isDigit (h : isDigit c = true) : punctuation? c = none := by
  unfold punctuation?
  split <;> first | rfl | contradiction

/-- No name begins with a digit, or with a minus before one. -/
theorem find?_words (h : isDigit c = true) (cs : List Char) :
    words.find? (fun w => w.1.isPrefixOf (c :: cs)) = none ∧
      words.find? (fun w => w.1.isPrefixOf ('-' :: c :: cs)) = none := by
  have hne : ∀ d, isDigit d = false → d ≠ c := fun d hd => (ne_of_isDigit h hd).symm
  simp [words, hne 'n' rfl, hne 't' rfl, hne 'f' rfl, hne 'N' rfl, hne 'I' rfl, hne '-' rfl]

theorem begins_digits (h : EndsNumber rest) (hlen : (Nat.toDigits 10 n).length ≤ maxDigits) :
    Begins (Nat.toDigits 10 n ++ rest) (.scalar (.int n)) rest ∧
      Begins ('-' :: (Nat.toDigits 10 n ++ rest)) (.scalar (.int (-n))) rest := by
  obtain ⟨c, cs, hcs, -⟩ := toDigits_cons n
  have hc : isDigit c = true := isDigit_of_mem_toDigits (hcs ▸ List.mem_cons_self)
  have hnumber := readNumber_toDigits h hlen
  have hfind := find?_words hc (cs ++ rest)
  rw [hcs, List.cons_append] at hnumber ⊢
  constructor
  · refine begins_scalar (isSpace_of_isDigit hc) (punctuation?_of_isDigit hc)
      (ne_of_isDigit hc rfl) ?_
    have hminus : c ≠ '-' := ne_of_isDigit hc rfl
    rw [readScalar, hfind.1]
    · exact hnumber false
    · exact fun _ he => hminus (List.cons.inj he).1
  · refine begins_scalar rfl rfl (by decide) ?_
    rw [readScalar, hfind.2]
    exact hnumber true

theorem begins_int {i : Int} (h : EndsNumber rest)
    (hlen : (Nat.toDigits 10 i.natAbs).length ≤ maxDigits) :
    Begins ((toString i).toList ++ rest) (.scalar (.int i)) rest := by
  rw [Int.toString_eq_repr]
  cases i with
  | ofNat n =>
      rw [Int.repr, Nat.toList_repr]
      exact (begins_digits h hlen).1
  | negSucc n =>
      simp only [Int.repr, String.toList_append, Nat.toList_repr, List.append_assoc]
      exact (begins_digits h hlen).2

end CommandShell.Json.Lexeme
