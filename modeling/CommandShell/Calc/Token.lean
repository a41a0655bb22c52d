import CommandShell.Text.Blank
import CommandShell.Text.Digit

/-! The words of an arithmetic expression. Blanks are dropped first, wherever they stand. -/

namespace CommandShell.Calc

/-- A number as it is written: digits, and behind a point perhaps more of them. It may end in its
point or begin with it, but a digit it has. -/
structure Numeral where
  whole : List Char
  fraction : Option (List Char)
  whole_digits : whole.all Text.isDigit = true
  fraction_digits : (fraction.getD []).all Text.isDigit = true
  has_digit : whole ≠ [] ∨ fraction.getD [] ≠ []
  deriving DecidableEq, Repr

namespace Numeral

def text (n : Numeral) : List Char :=
  n.whole ++ (n.fraction.map ('.' :: ·)).getD []

/-- The digits of a number before and after its point, by value. -/
def digits (n : Numeral) : List Nat × List Nat :=
  (n.whole.filterMap Text.digit?, (n.fraction.getD []).filterMap Text.digit?)

theorem text_ne_nil (n : Numeral) : n.text ≠ [] := by
  intro h
  obtain ⟨hw, hf⟩ := List.append_eq_nil_iff.mp h
  cases hn : n.fraction with
  | none => exact n.has_digit.elim (· hw) (· (by rw [hn]; rfl))
  | some ds => rw [hn] at hf; contradiction

end Numeral

inductive Operator
  | add
  | sub
  | mul
  | div
  deriving DecidableEq, Repr

inductive Token
  | number (n : Numeral)
  | operator (o : Operator)
  | openParen
  | closeParen
  deriving DecidableEq, Repr

def symbol? : Char → Option Token
  | '+' => some (.operator .add)
  | '-' => some (.operator .sub)
  | '*' => some (.operator .mul)
  | '/' => some (.operator .div)
  | '(' => some .openParen
  | ')' => some .closeParen
  | _ => none

/-- The number at the head of a text. -/
def readNumber (cs : List Char) : Option (Numeral × List Char) :=
  match cs.dropWhile Text.isDigit with
  | '.' :: rest =>
      if h : cs.takeWhile Text.isDigit ≠ [] ∨ rest.takeWhile Text.isDigit ≠ [] then
        some (⟨cs.takeWhile Text.isDigit, some (rest.takeWhile Text.isDigit), List.all_takeWhile,
          List.all_takeWhile, h⟩, rest.dropWhile Text.isDigit)
      else none
  | rest =>
      if h : cs.takeWhile Text.isDigit ≠ [] then
        some (⟨cs.takeWhile Text.isDigit, none, List.all_takeWhile, rfl, .inl h⟩, rest)
      else none

/-- A number is read from its own text. -/
theorem eq_of_readNumber {cs rest : List Char} {n : Numeral}
    (h : readNumber cs = some (n, rest)) : cs = n.text ++ rest := by
  have ht : cs.takeWhile Text.isDigit ++ cs.dropWhile Text.isDigit = cs :=
    List.takeWhile_append_dropWhile
  rw [readNumber] at h
  split at h
  · rename_i after hd
    split at h
    · cases h
      rw [hd] at ht
      simp [Numeral.text, ht]
    · contradiction
  · split at h
    · cases h
      simp [Numeral.text]
    · contradiction

theorem readNumber_length {cs rest : List Char} {n : Numeral}
    (h : readNumber cs = some (n, rest)) : rest.length < cs.length := by
  rw [eq_of_readNumber h, List.length_append]
  exact Nat.lt_add_of_pos_left (List.length_pos_iff.mpr n.text_ne_nil)

/-- The words of a text without blanks, if it consists of words. -/
def tokens? (cs : List Char) : Option (List Token) :=
  match cs with
  | [] => some []
  | c :: tail =>
      match symbol? c with
      | some t => (tokens? tail).map (t :: ·)
      | none =>
          match h : readNumber (c :: tail) with
          | some (n, rest) =>
              have : rest.length ≤ tail.length := Nat.le_of_lt_succ (readNumber_length h)
              (tokens? rest).map (.number n :: ·)
          | none => none
termination_by cs.length

def withoutBlanks (s : String) : List Char :=
  s.toList.filter fun c => !Text.isBlank c

end CommandShell.Calc
