import CommandShell.Proofs.Calc.Placement

/-!
The two stacks without anything that keeps them from being misused: one takes from them what may
not be there, looks up how tightly a symbol binds that may have no precedence, and applies whatever
is on top. Each of these could end an evaluation with a misuse. None ever does, since it comes to the
same with and without guards; so what is taken for a division where nothing else matched is one.
-/

namespace CommandShell.Calc

/-- What stacks can be misused for. -/
inductive Misuse
  | emptyStack
  | noPrecedence
  | parenApplied
  deriving DecidableEq, Repr

/-- What ends an evaluation without a number. -/
inductive Trouble
  | fault (f : Fault)
  | misuse (m : Misuse)
  deriving DecidableEq, Repr

variable {α β : Type}

namespace Unguarded

/-- Takes the top off a stack. -/
def pop : List β → Except Trouble (β × List β)
  | [] => .error (.misuse .emptyStack)
  | x :: rest => .ok (x, rest)

/-- Looks at the top of a stack. -/
def top (stack : List β) : Except Trouble β := do
  let (x, _) ← pop stack
  return x

/-- Looks up how tightly a symbol binds. Only operators are listed. -/
def precedence : Entry → Except Trouble Nat
  | .waiting (.binary o) => .ok o.precedence
  | _ => .error (.misuse .noPrecedence)

/-- Applies the symbol on top, whatever it is. What is neither a sign nor one of the first three
operators is taken for a division. -/
def apply (A : Arithmetic α) (entries : List Entry) (numbers : List α) :
    Except Trouble (List Entry × List α) := do
  let (symbol, entries) ← pop entries
  if symbol = .paren then throw (.misuse .parenApplied)
  if symbol = .waiting .negate then
    if numbers.isEmpty then throw (.fault .malformed)
    let (x, numbers) ← pop numbers
    return (entries, A.neg x :: numbers)
  if numbers.length < 2 then throw (.fault .malformed)
  let (b, numbers) ← pop numbers
  let (a, numbers) ← pop numbers
  if symbol = .waiting (.binary .add) then return (entries, A.add a b :: numbers)
  if symbol = .waiting (.binary .sub) then return (entries, A.sub a b :: numbers)
  if symbol = .waiting (.binary .mul) then return (entries, A.mul a b :: numbers)
  if A.isZero b then throw (.fault .divisionByZero)
  return (entries, A.div a b :: numbers)

theorem apply_waiting (A : Arithmetic α) (w : Waiting) (entries : List Entry) (numbers : List α) :
    apply A (.waiting w :: entries) numbers =
      match w.apply A numbers with
      | .error f => .error (.fault f)
      | .ok numbers => .ok (entries, numbers) := by
  cases w with
  | negate => cases numbers <;> rfl
  | binary o =>
      match numbers with
      | [] => rfl
      | [b] => rfl
      | b :: a :: numbers =>
          cases o with
          | add => rfl
          | sub => rfl
          | mul => rfl
          | div =>
              have ha : apply A (.waiting (.binary .div) :: entries) (b :: a :: numbers) =
                  if A.isZero b then .error (.fault .divisionByZero)
                  else .ok (entries, A.div a b :: numbers) := rfl
              rw [ha, Waiting.apply, Operator.apply]
              split <;> rfl

theorem apply_length {A : Arithmetic α} {entries left : List Entry} {numbers more : List α}
    (h : apply A entries numbers = .ok (left, more)) : left.length < entries.length := by
  match entries, h with
  | .waiting w :: entries, h =>
      rw [apply_waiting] at h
      split at h
      · cases h
      · cases h
        exact Nat.lt_succ_self _

/-- Applies symbols as long as a test of their stack says so. -/
def loop (A : Arithmetic α) (goesOn : List Entry → Except Trouble Bool) (entries : List Entry)
    (numbers : List α) : Except Trouble (List Entry × List α) :=
  match goesOn entries with
  | .error t => .error t
  | .ok false => .ok (entries, numbers)
  | .ok true =>
      match h : apply A entries numbers with
      | .error t => .error t
      | .ok (left, more) =>
          have := apply_length h
          loop A goesOn left more
termination_by entries.length

/-- At a closing parenthesis: up to the one that was opened. -/
def waitsOnTop (entries : List Entry) : Except Trouble Bool := do
  if entries.isEmpty then return false
  return (← top entries) ≠ .paren

/-- At an operator: as long as what is on top is applied before it. -/
def precedesOnTop (o : Operator) (entries : List Entry) : Except Trouble Bool := do
  if entries.isEmpty then return false
  let symbol ← top entries
  if symbol = .paren then return false
  if symbol = .waiting .negate then return true
  return o.precedence ≤ (← precedence symbol)

/-- At the end: as long as there is anything, of which nothing may be a parenthesis. -/
def leftOnTop (entries : List Entry) : Except Trouble Bool := do
  if entries.isEmpty then return false
  if (← top entries) = .paren then throw (.fault .mismatchedParentheses)
  return true

def step (A : Arithmetic α) (s : Stacks α) : Token → Except Trouble (Stacks α)
  | .number n => .ok ⟨A.number n :: s.numbers, s.entries, false⟩
  | .openParen => .ok ⟨s.numbers, .paren :: s.entries, true⟩
  | .closeParen => do
      let (entries, numbers) ← loop A waitsOnTop s.entries s.numbers
      if entries.isEmpty then throw (.fault .mismatchedParentheses)
      let (_, entries) ← pop entries
      return ⟨numbers, entries, false⟩
  | .operator o => do
      if o = .sub ∧ s.operandDue then
        return ⟨s.numbers, .waiting .negate :: s.entries, true⟩
      let (entries, numbers) ← loop A (precedesOnTop o) s.entries s.numbers
      return ⟨numbers, .waiting (.binary o) :: entries, true⟩

def finish (A : Arithmetic α) (s : Stacks α) : Except Trouble α := do
  let (_, numbers) ← loop A leftOnTop s.entries s.numbers
  if numbers.length ≠ 1 then throw (.fault .malformed)
  top numbers

/-- The value of an expression, by stacks that nothing guards. -/
def evaluate (A : Arithmetic α) (s : String) : Except Trouble α :=
  let text := withoutBlanks s
  if text.isEmpty then .error (.fault .empty)
  else
    match tokens? text with
    | none => .error (.fault (.invalidCharacter (String.ofList text)))
    | some ts => do finish A (← ts.foldlM (step A) ⟨[], [], true⟩)

/-! ## Evaluation with guards -/

section Guards

variable {A : Arithmetic α} {goesOn : List Entry → Except Trouble Bool} {w : Waiting}
  {entries : List Entry}

theorem loop_of_stop (h : goesOn entries = .ok false) (numbers : List α) :
    loop A goesOn entries numbers = .ok (entries, numbers) := by
  rw [loop, h]

theorem loop_waiting (h : goesOn (.waiting w :: entries) = .ok true) (numbers : List α) :
    loop A goesOn (.waiting w :: entries) numbers =
      match w.apply A numbers with
      | .error f => .error (.fault f)
      | .ok numbers => loop A goesOn entries numbers := by
  have ha := apply_waiting A w entries numbers
  rw [loop, h]
  simp only
  -- The loop keeps the equation of what it applies for its termination, so that it cannot be
  -- rewritten in place.
  split
  · rename_i t ht
    rw [ha] at ht
    cases hw : w.apply A numbers with
    | error f => simpa [hw] using ht.symm
    | ok numbers' => simp [hw] at ht
  · rename_i left more ht
    rw [ha] at ht
    cases hw : w.apply A numbers with
    | error f => simp [hw] at ht
    | ok numbers' =>
        simp only [hw, Except.ok.injEq, Prod.mk.injEq] at ht
        rw [← ht.1, ← ht.2]

/-- A test that stops at parentheses and at the bottom only looks at waiting operators. -/
theorem loop_eq_reduce {test : Waiting → Bool} (hn : goesOn [] = .ok false)
    (hp : ∀ entries, goesOn (.paren :: entries) = .ok false)
    (hw : ∀ w entries, goesOn (.waiting w :: entries) = .ok (test w)) (entries : List Entry)
    (numbers : List α) :
    loop A goesOn entries numbers = (reduce A test entries numbers).mapError .fault := by
  induction entries generalizing numbers with
  | nil => rw [loop_of_stop hn]; rfl
  | cons entry entries ih =>
      cases entry with
      | paren => rw [loop_of_stop (hp entries)]; rfl
      | waiting w =>
          cases ht : test w with
          | false =>
              rw [loop_of_stop (by rw [hw, ht]), reduce, if_neg (by simp [ht])]
              rfl
          | true =>
              rw [loop_waiting (by rw [hw, ht]), reduce, if_pos ht]
              cases w.apply A numbers with
              | error f => rfl
              | ok numbers => exact ih numbers

theorem loop_waitsOnTop (entries : List Entry) (numbers : List α) :
    loop A waitsOnTop entries numbers =
      (reduce A (fun _ => true) entries numbers).mapError .fault :=
  loop_eq_reduce rfl (fun _ => rfl) (fun _ _ => rfl) entries numbers

theorem loop_precedesOnTop (o : Operator) (entries : List Entry) (numbers : List α) :
    loop A (precedesOnTop o) entries numbers =
      (reduce A (Waiting.precedes o) entries numbers).mapError .fault := by
  refine loop_eq_reduce rfl (fun _ => rfl) (fun w _ => ?_) entries numbers
  cases w <;> rfl

theorem loop_leftOnTop (entries : List Entry) (numbers : List α) :
    loop A leftOnTop entries numbers =
      match reduce A (fun _ => true) entries numbers with
      | .error f => .error (.fault f)
      | .ok (_ :: _, _) => .error (.fault .mismatchedParentheses)
      | .ok ([], numbers) => .ok ([], numbers) := by
  induction entries generalizing numbers with
  | nil => rw [loop_of_stop rfl]; rfl
  | cons entry entries ih =>
      cases entry with
      | paren => rw [loop]; rfl
      | waiting w =>
          rw [loop_waiting rfl, reduce, if_pos rfl]
          cases w.apply A numbers with
          | error f => rfl
          | ok numbers => exact ih numbers

theorem stops_of_reduce {test : Waiting → Bool} {left : List Entry} {numbers more : List α}
    (h : reduce A test entries numbers = .ok (left, more)) : Stops test left :=
  reduce_induction (motive := fun _ _ => Stops test left) h id fun _ _ _ _ _ ih => ih

theorem step_eq (s : Stacks α) (t : Token) :
    step A s t = (Calc.step A s t).mapError .fault := by
  cases t with
  | number n => rfl
  | openParen => rfl
  | closeParen =>
      simp only [step, Calc.step, loop_waitsOnTop]
      rcases hr : reduce A (fun _ => true) s.entries s.numbers with f | ⟨_ | ⟨_ | w, _⟩, numbers⟩
      · rfl
      · rfl
      · rfl
      · have hs := stops_of_reduce hr w rfl
        contradiction
  | operator o =>
      simp only [step, Calc.step, loop_precedesOnTop]
      split
      · rfl
      · cases reduce A (Waiting.precedes o) s.entries s.numbers with
        | error f => rfl
        | ok reduced => rfl

theorem run_eq (s : Stacks α) (ts : List Token) :
    ts.foldlM (step A) s = (Calc.run A s ts).mapError .fault := by
  induction ts generalizing s with
  | nil => rfl
  | cons t ts ih =>
      rw [List.foldlM_cons, step_eq, run_cons]
      cases Calc.step A s t with
      | error f => rfl
      | ok s => exact ih s

theorem finish_eq (s : Stacks α) : finish A s = (Calc.finish A s).mapError .fault := by
  simp only [finish, Calc.finish, loop_leftOnTop]
  rcases reduce A (fun _ => true) s.entries s.numbers with
    f | ⟨_ | ⟨_, _⟩, _ | ⟨x, _ | ⟨y, numbers⟩⟩⟩ <;> rfl

theorem evaluate_eq (s : String) : evaluate A s = (Calc.evaluate A s).mapError .fault := by
  simp only [evaluate, Calc.evaluate]
  split
  · rfl
  · cases tokens? (withoutBlanks s) with
    | none => rfl
    | some ts =>
        simp only [evaluateTokens, run_eq]
        cases run A ⟨[], [], true⟩ ts with
        | error f => rfl
        | ok s => exact finish_eq s

theorem evaluate_eq_ok_iff {s : String} {x : α} :
    evaluate A s = .ok x ↔ Calc.evaluate A s = .ok x := by
  rw [evaluate_eq]
  cases Calc.evaluate A s <;> simp [Except.mapError]

theorem evaluate_ne_misuse (s : String) (m : Misuse) : evaluate A s ≠ .error (.misuse m) := by
  rw [evaluate_eq]
  cases Calc.evaluate A s <;> simp [Except.mapError]

end Guards

end Unguarded

/-! ## Literals, operators and parentheses -/

/-- How many of some words are operators between two operands: all but the minus signs that stand
where an operand is due. -/
def binaries : Bool → List Token → Nat
  | _, [] => 0
  | _, .number _ :: rest => binaries false rest
  | _, .openParen :: rest => binaries true rest
  | _, .closeParen :: rest => binaries false rest
  | due, .operator o :: rest => (if o = .sub ∧ due then 0 else 1) + binaries true rest

def Entry.isBinary : Entry → Bool
  | .waiting (.binary _) => true
  | _ => false

section Counts

variable {A : Arithmetic α} {test : Waiting → Bool} {w : Waiting} {entries left : List Entry}
  {numbers more : List α} {s s' : Stacks α} {t : Token} {ts : List Token}

theorem length_waiting_apply (h : w.apply A numbers = .ok more) :
    more.length + [Entry.waiting w].countP Entry.isBinary = numbers.length := by
  match w, numbers, h with
  | .negate, x :: numbers, h =>
      cases h
      rfl
  | .binary o, b :: a :: numbers, h =>
      rw [Waiting.apply] at h
      cases ho : o.apply A a b with
      | error f => simp [ho, Except.map] at h
      | ok x =>
          simp only [ho, Except.map, Except.ok.injEq] at h
          rw [← h]
          rfl

/-- Applying operators takes as many numbers as it takes binary operators off the stack. -/
theorem length_reduce (h : reduce A test entries numbers = .ok (left, more)) :
    more.length + entries.countP Entry.isBinary =
      numbers.length + left.countP Entry.isBinary := by
  refine reduce_induction (motive := fun entries numbers =>
    more.length + entries.countP Entry.isBinary = numbers.length + left.countP Entry.isBinary)
    h (fun _ => rfl) fun w entries numbers later hw ih => ?_
  have ha := length_waiting_apply hw
  rw [← List.singleton_append, List.countP_append]
  omega

/-- Literals and binary operators that are read are on the stacks, or make up for each other. -/
theorem length_step (h : step A s t = .ok s') (rest : List Token) :
    s'.numbers.length + s.entries.countP Entry.isBinary + binaries s.operandDue (t :: rest) +
        rest.countP Token.isNumber =
      s.numbers.length + s'.entries.countP Entry.isBinary + binaries s'.operandDue rest +
        (t :: rest).countP Token.isNumber := by
  cases t with
  | number n =>
      cases h
      simp [binaries, List.countP_cons, Token.isNumber]
      omega
  | openParen =>
      cases h
      simp [binaries, Token.isNumber, Entry.isBinary]
  | closeParen =>
      simp only [step] at h
      split at h
      · cases h
      · rename_i entries numbers hr
        cases h
        have hl := length_reduce hr
        simp [binaries, Token.isNumber, Entry.isBinary] at hl ⊢
        omega
      · cases h
  | operator o =>
      simp only [step] at h
      split at h
      · rename_i ho
        cases h
        simp [binaries, Token.isNumber, Entry.isBinary, ho]
      · rename_i ho
        split at h
        · cases h
        · rename_i entries numbers hr
          cases h
          have hl := length_reduce hr
          simp [binaries, List.countP_cons, Token.isNumber, Entry.isBinary, ho] at hl ⊢
          omega

theorem length_run (h : run A s ts = .ok s') :
    s'.numbers.length + s.entries.countP Entry.isBinary + binaries s.operandDue ts =
      s.numbers.length + s'.entries.countP Entry.isBinary + ts.countP Token.isNumber := by
  induction ts generalizing s with
  | nil =>
      cases h
      rfl
  | cons t ts ih =>
      rw [run] at h
      split at h
      · contradiction
      · rename_i next hs
        have hl := length_step hs ts
        have hi := ih h
        omega

/-- Where a number is returned, binary operators stand between the literals one by one. -/
theorem countP_isNumber_of_evaluateTokens {x : α} (h : evaluateTokens A ts = .ok x) :
    ts.countP Token.isNumber = binaries true ts + 1 := by
  rw [evaluateTokens] at h
  split at h
  · contradiction
  · rename_i s hr
    rw [finish] at h
    split at h
    · contradiction
    · contradiction
    · rename_i hd
      have hl := length_run hr
      have hf := length_reduce hd
      simp only [List.length_nil, List.length_singleton, List.countP_nil] at hl hf
      omega
    · contradiction

/-- What is open behind some words is what was opened and not closed. -/
theorem count_of_openAfter {depth n : Nat} (h : openAfter depth ts = some n) :
    n + ts.count .closeParen = depth + ts.count .openParen := by
  induction ts generalizing depth with
  | nil =>
      cases h
      rfl
  | cons t ts ih =>
      match t, depth, h with
      | .number _, _, h => simpa using ih h
      | .operator _, _, h => simpa using ih h
      | .openParen, depth, h =>
          have hi := ih h
          rw [List.count_cons_self, List.count_cons_of_ne (by simp)]
          omega
      | .closeParen, depth + 1, h =>
          have hi := ih h
          rw [List.count_cons_self, List.count_cons_of_ne (by simp)]
          omega

theorem openAfter_append (depth : Nat) (ts rest : List Token) :
    openAfter depth (ts ++ rest) = (openAfter depth ts).bind (openAfter · rest) := by
  induction ts generalizing depth with
  | nil => rfl
  | cons t ts ih =>
      match t, depth with
      | .number _, _ => exact ih _
      | .operator _, _ => exact ih _
      | .openParen, _ => exact ih _
      | .closeParen, 0 => rfl
      | .closeParen, depth + 1 => exact ih _

/-- No beginning of words with paired parentheses closes more than it opened. -/
theorem count_closeParen_le {before : List Token} (h : openAfter 0 ts = some 0)
    (hb : before <+: ts) : before.count .closeParen ≤ before.count .openParen := by
  obtain ⟨rest, rfl⟩ := hb
  rw [openAfter_append, Option.bind_eq_some_iff] at h
  obtain ⟨n, hn, -⟩ := h
  have hc := count_of_openAfter hn
  omega

theorem exists_tokens_of_evaluate {text : String} {x : α} (h : evaluate A text = .ok x) :
    ∃ ts, tokens? (withoutBlanks text) = some ts ∧ evaluateTokens A ts = .ok x := by
  rw [evaluate] at h
  split at h
  · contradiction
  · split at h
    · contradiction
    · rename_i ts ht
      exact ⟨ts, ht, h⟩

end Counts

/-- Stacks that nothing guards are never misused. A text with a value has balanced parentheses and
one literal more than binary operators. -/
theorem unguarded_eq_evaluate (A : Arithmetic α) (s : String) :
    Unguarded.evaluate A s = (evaluate A s).mapError .fault ∧
      (∀ m, Unguarded.evaluate A s ≠ .error (.misuse m)) ∧
      ∀ x, Unguarded.evaluate A s = .ok x →
        ∃ ts, tokens? (withoutBlanks s) = some ts ∧
          (∀ before, before <+: ts → before.count .closeParen ≤ before.count .openParen) ∧
          ts.count .closeParen = ts.count .openParen ∧
          ts.countP Token.isNumber = binaries true ts + 1 := by
  refine ⟨Unguarded.evaluate_eq s, Unguarded.evaluate_ne_misuse s, fun x hx => ?_⟩
  obtain ⟨ts, ht, hv⟩ := exists_tokens_of_evaluate (Unguarded.evaluate_eq_ok_iff.mp hx)
  have ho : openAfter 0 ts = some 0 := openAfter_of_evaluateTokens hv
  have hc : 0 + ts.count .closeParen = 0 + ts.count .openParen := count_of_openAfter ho
  exact ⟨ts, ht, fun before hb => count_closeParen_le ho hb, by omega,
    countP_isNumber_of_evaluateTokens hv⟩

/-- A difference with a sign, over whole numbers. -/
theorem unguarded_eq_evaluate_difference :
    let A : Arithmetic Int :=
      ⟨fun n => Decimal.ofDigits n.digits.1, (· + ·), (· - ·), (· * ·), (· / ·), (- ·), (· == 0)⟩
    Unguarded.evaluate A "2 - (-3)" = .ok 5 ∧
      tokens? (withoutBlanks "2 - (-3)") = some
        [.number (.ofDigit '2' rfl), .operator .sub, .openParen, .operator .sub,
          .number (.ofDigit '3' rfl), .closeParen] ∧
      2 = binaries true
        [.number (.ofDigit '2' rfl), .operator .sub, .openParen, .operator .sub,
          .number (.ofDigit '3' rfl), .closeParen] + 1 := by
  intro A
  have ht : tokens? (withoutBlanks "2 - (-3)") = some
      [.number (.ofDigit '2' rfl), .operator .sub, .openParen, .operator .sub,
        .number (.ofDigit '3' rfl), .closeParen] :=
    tokens?_of_text (by decide) (by decide)
  have hv : evaluate A "2 - (-3)" = .ok 5 := by
    rw [evaluate]
    simp only [ht]
    rfl
  obtain ⟨hu, -, hb⟩ := unguarded_eq_evaluate A "2 - (-3)"
  rw [hv] at hu
  obtain ⟨ts, hts, -, -, hn⟩ := hb 5 hu
  rw [ht, Option.some.injEq] at hts
  subst hts
  exact ⟨hu, ht, hn⟩

end CommandShell.Calc
