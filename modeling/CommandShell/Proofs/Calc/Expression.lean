import CommandShell.Calc.Evaluate
import Mathlib.Data.List.Chain
import Mathlib.Data.List.TakeWhile

/-! Arithmetic expressions as trees: the words they are written with, and what they come to. Reading
the text of an expression gives its words. -/

namespace CommandShell.Calc

def Numeral.ofDigit (c : Char) (h : Text.isDigit c = true) : Numeral :=
  ⟨[c], none, by rw [List.all_cons, h, List.all_nil, Bool.and_self], List.all_nil,
    .inl (List.cons_ne_nil c [])⟩

def Operator.symbol : Operator → Char
  | add => '+'
  | sub => '-'
  | mul => '*'
  | div => '/'

def Token.text : Token → List Char
  | number n => n.text
  | operator o => [o.symbol]
  | openParen => ['(']
  | closeParen => [')']

def Token.isNumber : Token → Bool
  | number _ => true
  | _ => false

/-- Expressions by how tightly they bind: sums and differences at level 1, products and quotients at
level 2, and at level 3 numbers, what has a sign, and what is in parentheses. -/
inductive Expression : Nat → Type
  | number (n : Numeral) : Expression 3
  | negate (e : Expression 3) : Expression 3
  | parens (e : Expression 1) : Expression 3
  | tighter {level : Nat} (e : Expression (level + 1)) : Expression level
  | binary {level : Nat} (a : Expression level) (o : Operator) (h : o.precedence = level)
      (b : Expression (level + 1)) : Expression level

variable {α : Type}

/-- The number that an operator makes of two others. -/
def Operator.compute (A : Arithmetic α) : Operator → α → α → α
  | add => A.add
  | sub => A.sub
  | mul => A.mul
  | div => A.div

namespace Expression

variable {level : Nat}

def tokens {level : Nat} : Expression level → List Token
  | number n => [.number n]
  | negate e => .operator .sub :: e.tokens
  | parens e => .openParen :: (e.tokens ++ [.closeParen])
  | tighter e => e.tokens
  | binary a o _ b => a.tokens ++ .operator o :: b.tokens

def text (e : Expression level) : List Char :=
  e.tokens.flatMap Token.text

def value (A : Arithmetic α) {level : Nat} : Expression level → α
  | number n => A.number n
  | negate e => A.neg (e.value A)
  | parens e => e.value A
  | tighter e => e.value A
  | binary a o _ b => o.compute A (a.value A) (b.value A)

/-- Whether some division in an expression has a divisor that counts as zero. -/
def dividesByZero (A : Arithmetic α) {level : Nat} : Expression level → Bool
  | number _ => false
  | negate e => e.dividesByZero A
  | parens e => e.dividesByZero A
  | tighter e => e.dividesByZero A
  | binary a o _ b =>
      a.dividesByZero A || b.dividesByZero A || (o = .div && A.isZero (b.value A))

/-- What an expression comes to. -/
def result (A : Arithmetic α) (e : Expression level) : Except Fault α :=
  if e.dividesByZero A then .error .divisionByZero else .ok (e.value A)

theorem result_negate (A : Arithmetic α) (e : Expression 3) :
    (negate e).result A = (e.result A).map A.neg := by
  cases h : e.dividesByZero A <;> simp [result, dividesByZero, value, h, Except.map]

/-- The operands come first, the left one before the right one. -/
theorem result_binary (A : Arithmetic α) (a : Expression level) (o : Operator)
    (h : o.precedence = level) (b : Expression (level + 1)) :
    (binary a o h b).result A =
      match a.result A, b.result A with
      | .error f, _ => .error f
      | .ok _, .error f => .error f
      | .ok x, .ok y => o.apply A x y := by
  cases ha : a.dividesByZero A <;> cases hb : b.dividesByZero A <;> cases o <;>
    simp [result, dividesByZero, value, ha, hb, Operator.apply, Operator.compute]

theorem tokens_ne_nil (e : Expression level) : e.tokens ≠ [] := by
  induction e with
  | number n => exact List.cons_ne_nil _ _
  | negate e _ => exact List.cons_ne_nil _ _
  | parens e _ => exact List.cons_ne_nil _ _
  | tighter e ih => exact ih
  | binary a o h b iha _ => exact List.append_ne_nil_of_left_ne_nil iha _

end Expression

/-! ## Places -/

/-- Whether each word stands where it may: numbers, signs and opening parentheses where an operand is
due, operators and closing parentheses where none is. None is due at the end. -/
def inPlace : Bool → List Token → Bool
  | due, [] => !due
  | true, .number _ :: rest => inPlace false rest
  | true, .operator .sub :: rest => inPlace true rest
  | true, .openParen :: rest => inPlace true rest
  | false, .operator _ :: rest => inPlace true rest
  | false, .closeParen :: rest => inPlace false rest
  | _, _ => false

namespace Expression

theorem inPlace_tokens {level : Nat} (e : Expression level) (rest : List Token) :
    inPlace true (e.tokens ++ rest) = inPlace false rest := by
  induction e generalizing rest with
  | number n => rfl
  | negate e ih => exact ih rest
  | parens e ih => simp [tokens, inPlace, ih]
  | tighter e ih => exact ih rest
  | binary a o h b iha ihb => simp [tokens, inPlace, iha, ihb]

end Expression

/-! ## Reading -/

section Reading

variable {cs rest : List Char} {ts : List Token}

/-- No two words are numbers that run together. -/
def Apart (ts : List Token) : Prop :=
  ts.IsChain fun t u => t.isNumber = true → u.isNumber = false

instance : DecidablePred Apart := fun ts =>
  inferInstanceAs (Decidable (ts.IsChain fun t u => t.isNumber = true → u.isNumber = false))

/-- A number that ends before a text does not go on in it. -/
def EndsNumber (rest : List Char) : Prop :=
  ∀ c ∈ rest.head?, Text.isDigit c = false ∧ c ≠ '.'

theorem text_of_symbol? {c : Char} {t : Token} (h : symbol? c = some t) : t.text = [c] := by
  unfold symbol? at h
  split at h <;> cases h <;> rfl

theorem symbol?_eq_none {c : Char} (h : Text.isDigit c = true ∨ c = '.') : symbol? c = none := by
  unfold symbol?
  split <;> first | rfl | exact absurd h (by decide)

theorem Numeral.head_text {c : Char} {tail : List Char} (n : Numeral) (h : n.text = c :: tail) :
    Text.isDigit c = true ∨ c = '.' := by
  obtain ⟨whole, fraction, hw, hf, hd⟩ := n
  cases whole with
  | nil =>
      cases fraction with
      | none => simp at hd
      | some ds =>
          cases h
          exact .inr rfl
  | cons d whole =>
      cases h
      exact .inl (List.all_eq_true.mp hw c List.mem_cons_self)

theorem EndsNumber.of_symbol? {c : Char} {t : Token} (h : symbol? c = some t) :
    EndsNumber (c :: rest) := by
  rintro d ⟨⟩
  by_contra hc
  have hn : Text.isDigit c = true ∨ c = '.' := by
    by_cases hd : Text.isDigit c = true
    · exact .inl hd
    · exact .inr (by_contra fun hp => hc ⟨by simpa using hd, hp⟩)
  rw [symbol?_eq_none hn] at h
  contradiction

/-- The digits at the head of a text are those before the first other character. -/
theorem span_digits {ds : List Char} (hd : ds.all Text.isDigit = true)
    (h : ∀ c ∈ rest.head?, Text.isDigit c = false) :
    (ds ++ rest).takeWhile Text.isDigit = ds ∧ (ds ++ rest).dropWhile Text.isDigit = rest := by
  have hall := List.all_eq_true.mp hd
  rw [List.takeWhile_append_of_pos hall, List.dropWhile_append_of_pos hall]
  cases rest with
  | nil => simp
  | cons c rest => simp [h c rfl]

theorem readNumber_text (n : Numeral) (h : EndsNumber rest) :
    readNumber (n.text ++ rest) = some (n, rest) := by
  obtain ⟨whole, fraction, hw, hf, hd⟩ := n
  have hrest : ∀ c ∈ rest.head?, Text.isDigit c = false := fun c hc => (h c hc).1
  cases fraction with
  | none =>
      obtain ⟨ht, hr⟩ := span_digits hw hrest
      have hne : whole ≠ [] := by simpa using hd
      simp only [Numeral.text, Option.map_none, Option.getD_none, List.append_nil]
      rw [readNumber]
      split
      · rename_i after he
        rw [hr] at he
        exact absurd rfl (h '.' (by rw [he]; rfl)).2
      · simp [ht, hr, hne]
  | some ds =>
      have hpoint : ∀ c ∈ ('.' :: (ds ++ rest)).head?, Text.isDigit c = false := by
        rintro c ⟨⟩
        decide
      obtain ⟨ht, hr⟩ := span_digits hw hpoint
      obtain ⟨htd, hrd⟩ := span_digits hf hrest
      simp only [Option.getD_some] at htd hrd hd
      simp only [Numeral.text, Option.map_some, Option.getD_some, List.append_assoc,
        List.cons_append]
      rw [readNumber]
      split
      · rename_i after he
        rw [hr, List.cons.injEq] at he
        obtain ⟨-, rfl⟩ := he
        simp [ht, htd, hrd, hd]
      · rename_i hne
        exact absurd hr (hne _)

theorem tokens?_symbol {c : Char} {t : Token} (h : symbol? c = some t) :
    tokens? (c :: rest) = (tokens? rest).map (t :: ·) := by
  rw [tokens?]
  simp only [h]

theorem tokens?_number (n : Numeral) (h : EndsNumber rest) :
    tokens? (n.text ++ rest) = (tokens? rest).map (.number n :: ·) := by
  have hr := readNumber_text n h
  obtain ⟨c, tail, ht⟩ := List.exists_cons_of_ne_nil n.text_ne_nil
  have hc : symbol? c = none := symbol?_eq_none (n.head_text ht)
  rw [ht, List.cons_append] at hr ⊢
  rw [tokens?]
  simp only [hc]
  split
  · rename_i m after hm
    rw [hr, Option.some.injEq, Prod.mk.injEq] at hm
    rw [hm.1, hm.2]
  · rename_i hm
    rw [hr] at hm
    contradiction

theorem exists_numeral {t : Token} (h : t.isNumber = true) : ∃ n, t = .number n := by
  cases t with
  | number n => exact ⟨n, rfl⟩
  | _ => contradiction

theorem exists_symbol {t : Token} (h : t.isNumber = false) :
    ∃ c, t.text = [c] ∧ symbol? c = some t := by
  cases t with
  | number n => contradiction
  | operator o => exact ⟨o.symbol, rfl, by cases o <;> rfl⟩
  | openParen => exact ⟨'(', rfl, rfl⟩
  | closeParen => exact ⟨')', rfl, rfl⟩

theorem Apart.endsNumber {n : Numeral} (h : Apart (.number n :: ts)) :
    EndsNumber (ts.flatMap Token.text) := by
  cases ts with
  | nil => simp [EndsNumber]
  | cons t ts =>
      obtain ⟨c, hc, hs⟩ := exists_symbol ((List.isChain_cons_cons.mp h).1 rfl)
      rw [List.flatMap_cons, hc, List.singleton_append]
      exact .of_symbol? hs

/-- The words of a text, one after the other, are the text. -/
theorem text_of_tokens? (h : tokens? cs = some ts) : cs = ts.flatMap Token.text := by
  fun_induction tokens? cs generalizing ts with
  | case1 =>
      cases h
      rfl
  | case2 c tail t ht ih =>
      obtain ⟨ts, hts, rfl⟩ := Option.map_eq_some_iff.mp h
      rw [List.flatMap_cons, text_of_symbol? ht, ← ih hts]
      rfl
  | case3 c tail ht n rest hn _ ih =>
      obtain ⟨ts, hts, rfl⟩ := Option.map_eq_some_iff.mp h
      rw [List.flatMap_cons, Token.text, ← ih hts, ← eq_of_readNumber hn]
  | case4 => contradiction

/-- Words of which no two run together are read back. -/
theorem tokens?_of_text (h : Apart ts) (hc : ts.flatMap Token.text = cs) :
    tokens? cs = some ts := by
  subst hc
  induction ts with
  | nil => rw [List.flatMap_nil, tokens?]
  | cons t ts ih =>
      rw [List.flatMap_cons]
      cases ht : t.isNumber with
      | false =>
          obtain ⟨c, hc, hs⟩ := exists_symbol ht
          rw [hc, List.singleton_append, tokens?_symbol hs, ih h.tail]
          rfl
      | true =>
          obtain ⟨n, rfl⟩ := exists_numeral ht
          rw [Token.text, tokens?_number n h.endsNumber, ih h.tail]
          rfl

theorem exists_inPlace_tail {due : Bool} {t : Token} (h : inPlace due (t :: ts) = true) :
    ∃ next, inPlace next ts = true ∧ (t.isNumber = true → next = false) := by
  match due, t, h with
  | true, .number _, h => exact ⟨false, h, fun _ => rfl⟩
  | true, .operator .sub, h => exact ⟨true, h, by simp [Token.isNumber]⟩
  | true, .openParen, h => exact ⟨true, h, by simp [Token.isNumber]⟩
  | false, .operator _, h =>
      simp only [inPlace] at h
      exact ⟨true, h, by simp [Token.isNumber]⟩
  | false, .closeParen, h => exact ⟨false, h, by simp [Token.isNumber]⟩

theorem apart_of_inPlace {due : Bool} (h : inPlace due ts = true) : Apart ts := by
  induction ts generalizing due with
  | nil => exact .nil
  | cons t ts ih =>
      obtain ⟨next, hn, ht⟩ := exists_inPlace_tail h
      cases ts with
      | nil => exact .singleton t
      | cons u ts =>
          refine List.isChain_cons_cons.mpr ⟨?_, ih hn⟩
          intro hnum
          rw [ht hnum] at hn
          cases u with
          | number n => contradiction
          | _ => rfl

/-- A text is that of an expression if its words are. -/
theorem Expression.text_eq_iff {level : Nat} (e : Expression level) :
    e.text = cs ↔ tokens? cs = some e.tokens := by
  constructor
  · rintro rfl
    have hp := e.inPlace_tokens []
    rw [List.append_nil] at hp
    exact tokens?_of_text (apart_of_inPlace hp) rfl
  · intro h
    exact (text_of_tokens? h).symm

end Reading

end CommandShell.Calc
