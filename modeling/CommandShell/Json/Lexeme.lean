import CommandShell.Decimal.Numeral
import CommandShell.Json.Fault
import CommandShell.Json.Value
import CommandShell.Text.Code

/-!
The words of a JSON text. Reading stops at the first character that begins none, and that place
is kept as a word of its own, so that the reader of the words decides what was expected there.
-/

namespace CommandShell.Json

inductive Lexeme
  | openBrace
  | closeBrace
  | openBracket
  | closeBracket
  | colon
  | comma
  | string (s : String)
  | scalar (v : Json)
  | badString (kind : FaultKind) (position : Nat)
  | badNumber (count : Nat)
  | other

namespace Lexeme

def isSpace (c : Char) : Bool :=
  c = ' ' || c = '\t' || c = '\n' || c = '\r'

def hexValue? (c : Char) : Option Nat :=
  if '0' ≤ c ∧ c ≤ '9' then some (c.toNat - 48)
  else if 'a' ≤ c ∧ c ≤ 'f' then some (c.toNat - 87)
  else if 'A' ≤ c ∧ c ≤ 'F' then some (c.toNat - 55)
  else none

def hexQuad? (a b c d : Char) : Option Nat := do
  return (((← hexValue? a) * 16 + (← hexValue? b)) * 16 + (← hexValue? c)) * 16 + (← hexValue? d)

def plainEscape? : Char → Option Char
  | '"' => some '"'
  | '\\' => some '\\'
  | '/' => some '/'
  | 'b' => some '\x08'
  | 'f' => some '\x0c'
  | 'n' => some '\n'
  | 'r' => some '\r'
  | 't' => some '\t'
  | _ => none

/-- What stands in a string: a character, or a code point that an escape names. -/
inductive Piece
  | plain (c : Char)
  | named (n : Nat)

/-- The characters of a string. Two halves of a surrogate pair make one only if both are named. -/
def Piece.chars : List Piece → List Char
  | [] => []
  | plain c :: rest => c :: chars rest
  | [named n] => Text.Code.hold n
  | named n :: plain c :: rest => Text.Code.hold n ++ c :: chars rest
  | named n :: named m :: rest =>
      if Text.Surrogate.isHigh n && Text.Surrogate.isLow m then
        Text.Code.hold (Text.Surrogate.pair n m) ++ chars rest
      else Text.Code.hold n ++ chars (named m :: rest)

/-- The pieces of a string up to its closing quote, the rest after it, and the number of
characters read. `start` is the place of the opening quote and `position` the place in hand. -/
def readString (start position : Nat) :
    List Char → Except (FaultKind × Nat) (List Piece × List Char × Nat)
  | [] => .error (.unterminatedString, start)
  | '"' :: rest => .ok ([], rest, position + 1)
  | '\\' :: 'u' :: a :: b :: c :: d :: rest =>
      match hexQuad? a b c d with
      | none => .error (.badUnicodeEscape, position + 1)
      | some n =>
          if rest.isEmpty then .error (.badUnicodeEscape, position + 1)
          else
            match readString start (position + 6) rest with
            | .error e => .error e
            | .ok (pieces, rest, stop) => .ok (.named n :: pieces, rest, stop)
  | '\\' :: c :: rest =>
      if c = 'u' then .error (.badUnicodeEscape, position + 1)
      else
        match plainEscape? c with
        | none => .error (.badEscape, position)
        | some e =>
            match readString start (position + 2) rest with
            | .error e => .error e
            | .ok (pieces, rest, stop) => .ok (.plain e :: pieces, rest, stop)
  | c :: rest =>
      if c = '\\' then .error (.unterminatedString, start)
      else if c.toNat < 0x20 then .error (.controlCharacter, position)
      else
        match readString start (position + 1) rest with
        | .error e => .error e
        | .ok (pieces, rest, stop) => .ok (.plain c :: pieces, rest, stop)

theorem readString_length {start position : Nat} {cs rest : List Char}
    {pieces : List Piece} {stop : Nat}
    (h : readString start position cs = .ok (pieces, rest, stop)) :
    rest.length ≤ cs.length := by
  fun_induction readString start position cs generalizing pieces rest stop with
  | case2 =>
      simp only [Except.ok.injEq, Prod.mk.injEq] at h
      simp [← h.2.1]
  | case6 _ _ _ _ _ _ _ _ _ _ _ _ hr ih =>
      simp only [Except.ok.injEq, Prod.mk.injEq] at h
      have := ih hr
      simp only [List.length_cons, ← h.2.1]
      omega
  | case10 _ _ _ _ _ _ _ _ _ _ hr ih =>
      simp only [Except.ok.injEq, Prod.mk.injEq] at h
      have := ih hr
      simp only [List.length_cons, ← h.2.1]
      omega
  | case14 _ _ _ _ _ _ _ _ _ _ _ hr ih =>
      simp only [Except.ok.injEq, Prod.mk.injEq] at h
      have := ih hr
      simp only [List.length_cons, ← h.2.1]
      omega
  | _ => simp at h

def isDigit (c : Char) : Bool :=
  '0' ≤ c && c ≤ '9'

def digitValues (cs : List Char) : List Nat :=
  cs.map fun c => c.toNat - 48

/-- The digits of a number before the point: a zero alone, or digits that begin with another. -/
def readWhole : List Char → List Char × List Char
  | '0' :: rest => (['0'], rest)
  | cs => (cs.takeWhile isDigit, cs.dropWhile isDigit)

/-- A point is part of a number only before a digit. -/
def readFraction : List Char → List Char × List Char
  | '.' :: c :: rest =>
      if isDigit c then (c :: rest.takeWhile isDigit, rest.dropWhile isDigit)
      else ([], '.' :: c :: rest)
  | cs => ([], cs)

def readSign : List Char → Bool × List Char
  | '-' :: rest => (true, rest)
  | '+' :: rest => (false, rest)
  | cs => (false, cs)

/-- An exponent is part of a number only if it has a digit. -/
def readExponent : List Char → Option Int × List Char
  | [] => (none, [])
  | e :: rest =>
      let (negative, digits) := readSign rest
      if (e = 'e' ∨ e = 'E') ∧ !(digits.takeWhile isDigit).isEmpty then
        let n := Decimal.ofDigits (digitValues (digits.takeWhile isDigit))
        (some (Decimal.signed negative n), digits.dropWhile isDigit)
      else (none, e :: rest)

/-- The number at the head of a text, without its sign. -/
def readNumber (negative : Bool) (cs : List Char) : Option (Lexeme × List Char) :=
  let (whole, afterWhole) := readWhole cs
  if whole.isEmpty then none
  else
    let (fraction, afterFraction) := readFraction afterWhole
    let (exponent, rest) := readExponent afterFraction
    if fraction.isEmpty ∧ exponent.isNone then
      if whole.length > maxDigits then some (.badNumber whole.length, rest)
      else
        let n := Decimal.ofDigits (digitValues whole)
        some (.scalar (.int (Decimal.signed negative n)), rest)
    else
      let x := Decimal.toFloat (digitValues (whole ++ fraction))
        (exponent.getD 0 - fraction.length)
      some (.scalar (.float (if negative then -x else x)), rest)

def words : List (List Char × Json) :=
  [("null".toList, .null), ("true".toList, .bool true), ("false".toList, .bool false),
   ("NaN".toList, .float (0.0 / 0.0)), ("Infinity".toList, .float (1.0 / 0.0)),
   ("-Infinity".toList, .float (-1.0 / 0.0))]

def readScalar (cs : List Char) : Option (Lexeme × List Char) :=
  match words.find? fun w => w.1.isPrefixOf cs with
  | some (w, v) => some (.scalar v, cs.drop w.length)
  | none =>
      match cs with
      | '-' :: rest => readNumber true rest
      | cs => readNumber false cs

theorem readWhole_length (cs : List Char) :
    (readWhole cs).1.length + (readWhole cs).2.length = cs.length := by
  fun_cases readWhole cs with
  | case1 => simp; omega
  | case2 => rw [← List.length_append, List.takeWhile_append_dropWhile]

theorem readFraction_length (cs : List Char) : (readFraction cs).2.length ≤ cs.length := by
  fun_cases readFraction cs with
  | case1 c rest =>
      have := (List.dropWhile_sublist isDigit (l := rest)).length_le
      simp only [List.length_cons]
      omega
  | case2 => simp
  | case3 => simp

theorem readSign_length (cs : List Char) : (readSign cs).2.length ≤ cs.length := by
  fun_cases readSign cs <;> simp

theorem readExponent_length (cs : List Char) : (readExponent cs).2.length ≤ cs.length := by
  cases cs with
  | nil => simp [readExponent]
  | cons e rest =>
      have hs := readSign_length rest
      have hd := (List.dropWhile_sublist isDigit (l := (readSign rest).2)).length_le
      simp only [readExponent]
      split
      · simp only [List.length_cons]
        omega
      · simp

theorem readNumber_length {negative : Bool} {cs rest : List Char} {w : Lexeme}
    (h : readNumber negative cs = some (w, rest)) : rest.length < cs.length := by
  have hw := readWhole_length cs
  have hf := readFraction_length (readWhole cs).2
  have he := readExponent_length (readFraction (readWhole cs).2).2
  have hp : (readWhole cs).1.isEmpty = false := by
    cases hc : (readWhole cs).1.isEmpty with
    | false => rfl
    | true => simp [readNumber, hc] at h
  have hpos : 0 < (readWhole cs).1.length := by
    cases hc : (readWhole cs).1 with
    | nil => simp [hc] at hp
    | cons => simp
  have hr : rest = (readExponent (readFraction (readWhole cs).2).2).2 := by
    simp only [readNumber, hp, Bool.false_eq_true, if_false] at h
    split at h
    · split at h <;> · simp only [Option.some.injEq, Prod.mk.injEq] at h; exact h.2.symm
    · simp only [Option.some.injEq, Prod.mk.injEq] at h
      exact h.2.symm
  rw [hr]
  omega

theorem readScalar_length {cs rest : List Char} {w : Lexeme}
    (h : readScalar cs = some (w, rest)) : rest.length < cs.length := by
  simp only [readScalar] at h
  split at h
  · next word v hfind =>
      have hpre := List.find?_some hfind
      have hmem := List.mem_of_find?_eq_some hfind
      have hlen : 0 < word.length := by
        simp only [words, List.mem_cons, Prod.mk.injEq, List.not_mem_nil, or_false] at hmem
        rcases hmem with h | h | h | h | h | h <;> simp [h.1]
      have hle := (List.isPrefixOf_iff_prefix.1 hpre).length_le
      simp only [Option.some.injEq, Prod.mk.injEq] at h
      simp only [← h.2, List.length_drop]
      simp only at hle
      omega
  · split at h
    · have := readNumber_length h
      simp only [List.length_cons]
      omega
    · exact readNumber_length h

def punctuation? : Char → Option Lexeme
  | '\x7b' => some openBrace
  | '\x7d' => some closeBrace
  | '[' => some openBracket
  | ']' => some closeBracket
  | ':' => some colon
  | ',' => some comma
  | _ => none

/-- The words of a text with their places, and the place of its end. -/
def split (position : Nat) (cs : List Char) : List (Lexeme × Nat) × Nat :=
  match cs with
  | [] => ([], position)
  | c :: tail =>
      if isSpace c then split (position + 1) tail
      else
        match punctuation? c with
        | some w =>
            let (ws, stop) := split (position + 1) tail
            ((w, position) :: ws, stop)
        | none =>
            if c = '"' then
              match h : readString position (position + 1) tail with
              | .error (kind, place) => ([(badString kind place, position)], position)
              | .ok (pieces, rest, stop) =>
                  have := readString_length h
                  let (ws, stop) := split stop rest
                  ((string (String.ofList (Piece.chars pieces)), position) :: ws, stop)
            else
              match h : readScalar (c :: tail) with
              | none => ([(other, position)], position)
              | some (w, rest) =>
                  have : rest.length ≤ tail.length := Nat.le_of_lt_succ (readScalar_length h)
                  let (ws, stop) := split (position + (tail.length + 1 - rest.length)) rest
                  ((w, position) :: ws, stop)
termination_by cs.length

end Lexeme

end CommandShell.Json
