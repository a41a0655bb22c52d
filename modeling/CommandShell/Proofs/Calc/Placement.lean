import CommandShell.Calc.Answer
import CommandShell.Proofs.Calc.Value

/-!
What an evaluation that returns a number says about its text. The stacks see to it that parentheses
are paired; they do not look at where the words stand. Where all words stand in their places, paired
parentheses make an expression.
-/

namespace CommandShell.Calc

variable {α : Type} {A : Arithmetic α}

/-- How many parentheses are open behind some words, if none is closed that was not open. -/
def openAfter : Nat → List Token → Option Nat
  | depth, [] => some depth
  | depth, .openParen :: rest => openAfter (depth + 1) rest
  | 0, .closeParen :: _ => none
  | depth + 1, .closeParen :: rest => openAfter depth rest
  | depth, _ :: rest => openAfter depth rest

/-! ## Parentheses on the stack -/

section Stack

variable {test : Waiting → Bool} {entries left : List Entry} {numbers more : List α}
  {s s' : Stacks α} {t : Token} {ts : List Token}

theorem count_paren_reduce (h : reduce A test entries numbers = .ok (left, more)) :
    left.count .paren = entries.count .paren := by
  refine reduce_induction (motive := fun entries _ => left.count .paren = entries.count .paren)
    h (fun _ => rfl) fun w entries _ _ _ ih => ?_
  rw [ih, List.count_cons_of_ne (by simp)]

/-- A step opens or closes a parenthesis on the stack as its word does. -/
theorem openAfter_step (h : step A s t = .ok s') (rest : List Token) :
    openAfter (s.entries.count .paren) (t :: rest) =
      openAfter (s'.entries.count .paren) rest := by
  cases t with
  | number n =>
      cases h
      simp [openAfter]
  | openParen =>
      cases h
      simp [openAfter]
  | closeParen =>
      simp only [step] at h
      split at h
      · contradiction
      · rename_i entries numbers hr
        cases h
        rw [← count_paren_reduce hr, List.count_cons_self, openAfter]
      · contradiction
  | operator o =>
      simp only [step] at h
      split at h
      · cases h
        simp [openAfter]
      · split at h
        · contradiction
        · rename_i entries numbers hr
          cases h
          rw [List.count_cons_of_ne (by simp), count_paren_reduce hr]
          simp [openAfter]

theorem openAfter_run (h : run A s ts = .ok s') :
    openAfter (s.entries.count .paren) ts = some (s'.entries.count .paren) := by
  induction ts generalizing s with
  | nil =>
      cases h
      rfl
  | cons t ts ih =>
      rw [run] at h
      split at h
      · contradiction
      · rename_i next hs
        rw [openAfter_step hs, ih h]

/-- Where a number is returned, every parenthesis is paired. -/
theorem openAfter_of_evaluateTokens {x : α} (h : evaluateTokens A ts = .ok x) :
    openAfter 0 ts = some 0 := by
  rw [evaluateTokens] at h
  split at h
  · contradiction
  · rename_i s hr
    rw [finish] at h
    split at h
    · contradiction
    · contradiction
    · rename_i hd
      have ho := openAfter_run hr
      rwa [← count_paren_reduce hd] at ho
    · contradiction

end Stack

/-! ## Words in their places -/

namespace Expression

theorem openAfter_tokens {level : Nat} (e : Expression level) (depth : Nat) (rest : List Token) :
    openAfter depth (e.tokens ++ rest) = openAfter depth rest := by
  induction e generalizing depth rest with
  | number n => simp [tokens, openAfter]
  | negate e ih => simp [tokens, openAfter, ih]
  | parens e ih => simp [tokens, openAfter, ih]
  | tighter e ih => exact ih depth rest
  | binary a o h b iha ihb => simp [tokens, openAfter, iha, ihb]

/-- An expression goes on with an operator and an operand. -/
theorem exists_extended (e : Expression 1) (o : Operator) (f : Expression 3) :
    ∃ e' : Expression 1, e'.tokens = e.tokens ++ .operator o :: f.tokens := by
  have ho : o.precedence = 1 ∨ o.precedence = 2 := by cases o <;> simp [Operator.precedence]
  rcases ho with ho | ho
  · exact ⟨binary e o ho (tighter f), rfl⟩
  · cases e with
    | tighter t => exact ⟨tighter (binary t o ho f), rfl⟩
    | binary a p hp b => exact ⟨binary a p hp (binary b o ho f), by simp [tokens]⟩

end Expression

/-- Words in their places that close what was open begin with an operand. -/
def BeginsOperand (ts : List Token) : Prop :=
  ∀ depth, inPlace true ts = true → openAfter depth ts = some 0 →
    ∃ (e : Expression 3) (rest : List Token), ts = e.tokens ++ rest

/-- Nothing is left, or what was opened is closed. -/
def Ended (rest : List Token) : Prop :=
  rest = [] ∨ ∃ after, rest = .closeParen :: after

/-- Behind an expression, words in their places go on with it up to where it ends. -/
def GoesOn (ts : List Token) : Prop :=
  ∀ depth (e : Expression 1), inPlace false ts = true → openAfter depth ts = some 0 →
    ∃ (e' : Expression 1) (rest : List Token), e.tokens ++ ts = e'.tokens ++ rest ∧ Ended rest

section Reading

variable {ts : List Token} {depth : Nat}

/-- An operand and what goes on behind it are an expression up to its end. -/
theorem exists_ended (hb : BeginsOperand ts) (hg : ∀ rest, rest.length ≤ ts.length → GoesOn rest)
    (hp : inPlace true ts = true) (ho : openAfter depth ts = some 0) :
    ∃ (e : Expression 1) (rest : List Token), ts = e.tokens ++ rest ∧ Ended rest := by
  obtain ⟨f, rest, rfl⟩ := hb depth hp ho
  rw [f.inPlace_tokens] at hp
  rw [f.openAfter_tokens] at ho
  exact hg rest (by simp) depth (.tighter (.tighter f)) hp ho

theorem beginsOperand_of_shorter
    (ih : ∀ rest : List Token, rest.length < ts.length → BeginsOperand rest ∧ GoesOn rest) :
    BeginsOperand ts := by
  intro depth hp ho
  match ts, ih, hp, ho with
  | .number n :: rest, _, _, _ => exact ⟨.number n, rest, rfl⟩
  | .operator .sub :: rest, ih, hp, ho =>
      simp only [inPlace] at hp
      simp only [openAfter] at ho
      obtain ⟨e, after, rfl⟩ := (ih rest (by simp)).1 depth hp ho
      exact ⟨.negate e, after, rfl⟩
  | .openParen :: rest, ih, hp, ho =>
      simp only [inPlace] at hp
      simp only [openAfter] at ho
      have hshort : ∀ later : List Token, later.length ≤ rest.length →
          BeginsOperand later ∧ GoesOn later :=
        fun later hl => ih later (by simpa using Nat.lt_succ_of_le hl)
      obtain ⟨e, after, rfl, hend⟩ := exists_ended (hshort rest (Nat.le_refl _)).1
        (fun later hl => (hshort later hl).2) hp ho
      rcases hend with rfl | ⟨after, rfl⟩
      · rw [e.openAfter_tokens] at ho
        simp [openAfter] at ho
      · exact ⟨.parens e, after, by simp [Expression.tokens]⟩

theorem goesOn_of_shorter
    (ih : ∀ rest : List Token, rest.length < ts.length → BeginsOperand rest ∧ GoesOn rest) :
    GoesOn ts := by
  intro depth e hp ho
  match ts, ih, hp, ho with
  | [], _, _, _ => exact ⟨e, [], rfl, .inl rfl⟩
  | .closeParen :: rest, _, _, _ => exact ⟨e, .closeParen :: rest, rfl, .inr ⟨rest, rfl⟩⟩
  | .operator o :: rest, ih, hp, ho =>
      simp only [inPlace] at hp
      simp only [openAfter] at ho
      obtain ⟨f, after, rfl⟩ := (ih rest (by simp)).1 depth hp ho
      obtain ⟨e', he⟩ := e.exists_extended o f
      rw [f.inPlace_tokens] at hp
      rw [f.openAfter_tokens] at ho
      have hshort : after.length < (Token.operator o :: (f.tokens ++ after)).length := by
        rw [List.length_cons, List.length_append]
        omega
      obtain ⟨e'', last, hl, hend⟩ := (ih after hshort).2 depth e' hp ho
      refine ⟨e'', last, ?_, hend⟩
      rw [← hl, he]
      simp

theorem beginsOperand_and_goesOn (ts : List Token) : BeginsOperand ts ∧ GoesOn ts := by
  induction hn : ts.length using Nat.strongRecOn generalizing ts with
  | _ n ih =>
      have hs : ∀ rest : List Token, rest.length < ts.length → BeginsOperand rest ∧ GoesOn rest :=
        fun rest hl => ih rest.length (hn ▸ hl) rest rfl
      exact ⟨beginsOperand_of_shorter hs, goesOn_of_shorter hs⟩

/-- Words in their places with paired parentheses are an expression. -/
theorem exists_expression (hp : inPlace true ts = true) (ho : openAfter 0 ts = some 0) :
    ∃ e : Expression 1, ts = e.tokens := by
  obtain ⟨e, rest, rfl, hend⟩ := exists_ended (beginsOperand_and_goesOn ts).1
    (fun rest _ => (beginsOperand_and_goesOn rest).2) hp ho
  rcases hend with rfl | ⟨after, rfl⟩
  · exact ⟨e, by simp⟩
  · rw [e.openAfter_tokens] at ho
    simp [openAfter] at ho

end Reading

/-- A text with a value consists of words with paired parentheses, and is an expression exactly if
all words stand in their places. -/
theorem expression_iff_inPlace (A : Arithmetic α) (s : String) (x : α)
    (h : evaluate A s = .ok x) :
    ∃ ts, tokens? (withoutBlanks s) = some ts ∧ openAfter 0 ts = some 0 ∧
      ((∃ e : Expression 1, e.text = withoutBlanks s) ↔ inPlace true ts = true) := by
  rw [evaluate] at h
  split at h
  · contradiction
  · split at h
    · contradiction
    · rename_i ts ht
      have ho := openAfter_of_evaluateTokens h
      refine ⟨ts, ht, ho, ?_, ?_⟩
      · rintro ⟨e, he⟩
        rw [e.text_eq_iff, ht, Option.some.injEq] at he
        have hp := e.inPlace_tokens []
        rwa [List.append_nil, ← he] at hp
      · intro hp
        obtain ⟨e, rfl⟩ := exists_expression hp ho
        exact ⟨e, e.text_eq_iff.mpr ht⟩

/-- A sum in its places, over whole numbers. -/
theorem expression_iff_inPlace_sum :
    let A : Arithmetic Int :=
      ⟨fun n => Decimal.ofDigits n.digits.1, (· + ·), (· - ·), (· * ·), (· / ·), (- ·), (· == 0)⟩
    evaluate A "( 1 ) + 2" = .ok 3 ∧
      ∃ e : Expression 1, e.text = withoutBlanks "( 1 ) + 2" := by
  intro A
  have ht : tokens? (withoutBlanks "( 1 ) + 2") = some
      [.openParen, .number (.ofDigit '1' rfl), .closeParen, .operator .add,
        .number (.ofDigit '2' rfl)] :=
    tokens?_of_text (by decide) (by decide)
  have hv : evaluate A "( 1 ) + 2" = .ok 3 := by
    rw [evaluate]
    simp only [ht]
    rfl
  obtain ⟨ts, hts, -, hiff⟩ := expression_iff_inPlace A _ 3 hv
  rw [ht, Option.some.injEq] at hts
  subst hts
  exact ⟨hv, hiff.mpr rfl⟩

/-- Two operands before their operator are added up, and parentheses around nothing are passed over,
though neither is an expression. -/
theorem misplaced_evaluated :
    ((∃ x, evaluate floats "(1)(2)+" = .ok x) ∧
        ¬∃ e : Expression 1, e.text = withoutBlanks "(1)(2)+") ∧
      ((∃ x, evaluate floats "()1" = .ok x) ∧
        ¬∃ e : Expression 1, e.text = withoutBlanks "()1") := by
  have hn : ∀ {cs : List Char} {ts : List Token}, tokens? cs = some ts → inPlace true ts = false →
      ¬∃ e : Expression 1, e.text = cs := by
    rintro cs ts ht hp ⟨e, he⟩
    rw [e.text_eq_iff, ht, Option.some.injEq] at he
    have hin := e.inPlace_tokens []
    rw [List.append_nil, ← he, hp] at hin
    contradiction
  have hs : tokens? (withoutBlanks "(1)(2)+") = some
      [.openParen, .number (.ofDigit '1' rfl), .closeParen, .openParen,
        .number (.ofDigit '2' rfl), .closeParen, .operator .add] :=
    tokens?_of_text (by decide) (by decide)
  have he : tokens? (withoutBlanks "()1") = some
      [.openParen, .closeParen, .number (.ofDigit '1' rfl)] :=
    tokens?_of_text (by decide) (by decide)
  refine ⟨⟨?_, hn hs rfl⟩, ?_, hn he rfl⟩
  · rw [evaluate]
    simp only [hs]
    exact ⟨_, rfl⟩
  · rw [evaluate]
    simp only [he]
    exact ⟨_, rfl⟩

end CommandShell.Calc
