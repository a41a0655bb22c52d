import CommandShell.Decimal.Numeral
import CommandShell.Proofs.Calc.Expression

/-!
What the two stacks hold while an expression is read. After its last word some operators still wait,
each for the number above it; whatever lies below, they come to what the expression comes to.
-/

namespace CommandShell.Calc

variable {α : Type} {A : Arithmetic α}

/-- How tightly a waiting operator binds. -/
def Waiting.level : Waiting → Nat
  | negate => 3
  | binary o => o.precedence

/-- Applies operators from the first to the last. -/
def settle (A : Arithmetic α) : List Waiting → List α → Except Fault (List α)
  | [], numbers => .ok numbers
  | w :: pending, numbers =>
      match w.apply A numbers with
      | .error f => .error f
      | .ok numbers => settle A pending numbers

/-- No operator on top passes a test. -/
def Stops (test : Waiting → Bool) (entries : List Entry) : Prop :=
  ∀ w, entries.head? = some (.waiting w) → test w = false

/-- Operators and numbers that come to an outcome, whatever numbers are below them. -/
def Owes (A : Arithmetic α) (pending : List Waiting) (own : List α) (r : Except Fault α) : Prop :=
  ∀ numbers, settle A pending (own ++ numbers) = r.map (· :: numbers)

section Stacks

variable {test : Waiting → Bool} {o : Operator} {w : Waiting} {pending later : List Waiting}
  {entries : List Entry} {own numbers : List α} {r : Except Fault α}

theorem precedes_iff : w.precedes o = true ↔ o.precedence ≤ w.level := by
  cases w with
  | negate => cases o <;> simp [Waiting.precedes, Waiting.level, Operator.precedence]
  | binary p => simp [Waiting.precedes, Waiting.level]

theorem settle_append (pending later : List Waiting) (numbers : List α) :
    settle A (pending ++ later) numbers =
      match settle A pending numbers with
      | .error f => .error f
      | .ok numbers => settle A later numbers := by
  induction pending generalizing numbers with
  | nil => rfl
  | cons w pending ih =>
      simp only [List.cons_append, settle]
      cases w.apply A numbers with
      | error f => rfl
      | ok numbers => exact ih numbers

theorem Owes.negate (h : Owes A pending own r) :
    Owes A (pending ++ [.negate]) own (r.map A.neg) := by
  intro numbers
  rw [settle_append, h numbers]
  cases r <;> rfl

theorem Owes.binary (h : Owes A pending own r) (o : Operator) (x : α) :
    Owes A (pending ++ [.binary o]) (own ++ [x]) (r.bind (o.apply A x)) := by
  intro numbers
  rw [settle_append, List.append_assoc, List.singleton_append, h (x :: numbers)]
  cases r with
  | error f => rfl
  | ok y =>
      simp only [Except.map, Except.bind, settle, Waiting.apply]
      cases o.apply A x y <;> rfl

/-- Operators that wait behind others of a level are of that level. -/
theorem level_le_of_mem_append {level : Nat} (h : ∀ v ∈ pending, level ≤ v.level)
    (hw : level ≤ w.level) : ∀ v ∈ pending ++ [w], level ≤ v.level := by
  intro v hv
  rcases List.mem_append.mp hv with hv | hv
  · exact h v hv
  · rwa [List.mem_singleton.mp hv]

theorem reduce_of_stops (h : Stops test entries) (numbers : List α) :
    reduce A test entries numbers = .ok (entries, numbers) := by
  match entries, h with
  | [], _ => rfl
  | .paren :: entries, _ => rfl
  | .waiting w :: entries, h => simp [reduce, h w rfl]

/-- What holds where the operators stop, and of more operators if it holds once the first of them is
applied, holds of all that are applied without a fault. -/
theorem reduce_induction {motive : List Entry → List α → Prop} {left : List Entry} {more : List α}
    (h : reduce A test entries numbers = .ok (left, more))
    (stop : Stops test left → motive left more)
    (apply : ∀ w entries numbers later, w.apply A numbers = .ok later → motive entries later →
      motive (.waiting w :: entries) numbers) : motive entries numbers := by
  induction entries generalizing numbers with
  | nil =>
      cases h
      exact stop (by simp [Stops])
  | cons entry entries ih =>
      cases entry with
      | paren =>
          cases h
          exact stop (by simp [Stops])
      | waiting w =>
          rw [reduce] at h
          split at h
          · split at h
            · contradiction
            · rename_i later hw
              exact apply w entries numbers later hw (ih h)
          · rename_i hw
            cases h
            refine stop ?_
            rintro v ⟨⟩
            simpa using hw

/-- Operators that pass the test are applied, and then those below them. -/
theorem reduce_append (h : ∀ w ∈ pending, test w = true) (numbers : List α) :
    reduce A test (pending.map .waiting ++ entries) numbers =
      match settle A pending numbers with
      | .error f => .error f
      | .ok numbers => reduce A test entries numbers := by
  induction pending generalizing numbers with
  | nil => rfl
  | cons w pending ih =>
      simp only [List.map_cons, List.cons_append, reduce, settle, h w List.mem_cons_self, if_true]
      cases w.apply A numbers with
      | error f => rfl
      | ok numbers => exact ih (fun w hw => h w (List.mem_cons_of_mem _ hw)) numbers

/-- What is owed is paid where the operators pass a test and those below them do not. -/
theorem reduce_owed (h : Owes A pending own r) (hp : ∀ w ∈ pending, test w = true)
    (hs : Stops test entries) (numbers : List α) :
    reduce A test (pending.map .waiting ++ entries) (own ++ numbers) =
      r.map fun x => (entries, x :: numbers) := by
  rw [reduce_append hp, h numbers]
  cases r with
  | error f => rfl
  | ok x => exact reduce_of_stops hs _

end Stacks

/-! ## Reading an expression -/

/-- What reading some words where an operand is due comes to: an outcome that is owed by operators of
a level, or its fault. -/
inductive Reads (A : Arithmetic α) (level : Nat) (r : Except Fault α) (entries : List Entry)
    (numbers : List α) (ts : List Token) : Prop
  | owed (pending : List Waiting) (own : List α) (hl : ∀ w ∈ pending, level ≤ w.level)
      (ho : Owes A pending own r)
      (hr : ∀ rest, run A ⟨numbers, entries, true⟩ (ts ++ rest) =
        run A ⟨own ++ numbers, pending.map .waiting ++ entries, false⟩ rest)
  | failed (f : Fault) (he : r = .error f)
      (hr : ∀ rest, run A ⟨numbers, entries, true⟩ (ts ++ rest) = .error f)

section Run

variable {entries : List Entry} {numbers : List α} {ts : List Token}

theorem run_cons (s : Stacks α) (t : Token) (rest : List Token) :
    run A s (t :: rest) =
      match step A s t with
      | .error f => .error f
      | .ok s => run A s rest :=
  rfl

theorem reads_negate {e : Expression 3}
    (h : Reads A 3 (e.result A) (.waiting .negate :: entries) numbers e.tokens) :
    Reads A 3 (e.negate.result A) entries numbers e.negate.tokens := by
  have hr : ∀ rest, run A ⟨numbers, entries, true⟩ (e.negate.tokens ++ rest) =
      run A ⟨numbers, .waiting .negate :: entries, true⟩ (e.tokens ++ rest) := fun _ => rfl
  rw [Expression.result_negate]
  cases h with
  | failed f he hf => exact .failed f (by rw [he]; rfl) fun rest => (hr rest).trans (hf rest)
  | owed pending own hl ho hf =>
      refine .owed (pending ++ [.negate]) own
        (level_le_of_mem_append (w := .negate) hl (Nat.le_refl 3)) ho.negate fun rest => ?_
      rw [hr, hf]
      simp

theorem reads_parens {e : Expression 1}
    (h : Reads A 1 (e.result A) (.paren :: entries) numbers e.tokens) :
    Reads A 3 (e.parens.result A) entries numbers e.parens.tokens := by
  have hr : ∀ rest, run A ⟨numbers, entries, true⟩ (e.parens.tokens ++ rest) =
      run A ⟨numbers, .paren :: entries, true⟩ (e.tokens ++ .closeParen :: rest) := by
    intro rest
    simp [Expression.tokens, run_cons, step]
  have he : e.parens.result A = e.result A := rfl
  rw [he]
  cases h with
  | failed f he hf => exact .failed f he fun rest => (hr rest).trans (hf _)
  | owed pending own hl ho hf =>
      have hclose : ∀ rest, run A ⟨numbers, entries, true⟩ (e.parens.tokens ++ rest) =
          (e.result A).bind fun x => run A ⟨x :: numbers, entries, false⟩ rest := by
        intro rest
        have hd : reduce A (fun _ => true) (pending.map .waiting ++ .paren :: entries)
            (own ++ numbers) = (e.result A).map fun x => (.paren :: entries, x :: numbers) :=
          reduce_owed ho (fun _ _ => rfl) (by simp [Stops]) numbers
        rw [hr, hf, run_cons]
        simp only [step, hd]
        cases e.result A <;> rfl
      cases hres : e.result A with
      | error f =>
          refine .failed f rfl fun rest => ?_
          rw [hclose, hres]
          rfl
      | ok x =>
          refine .owed [] [x] (by simp) (fun _ => rfl) fun rest => ?_
          rw [hclose, hres]
          rfl

theorem reads_binary {level : Nat} {a : Expression level} {o : Operator}
    {h : o.precedence = level} {b : Expression (level + 1)}
    (hs : Stops (Waiting.precedes o) entries)
    (ha : Reads A level (a.result A) entries numbers a.tokens)
    (hb : ∀ x, Reads A (level + 1) (b.result A) (.waiting (.binary o) :: entries) (x :: numbers)
      b.tokens) :
    Reads A level ((a.binary o h b).result A) entries numbers (a.binary o h b).tokens := by
  have ht : ∀ rest, (a.binary o h b).tokens ++ rest =
      a.tokens ++ .operator o :: (b.tokens ++ rest) := by
    simp [Expression.tokens]
  rw [Expression.result_binary]
  cases ha with
  | failed f he hf =>
      rw [he]
      exact .failed f rfl fun rest => by rw [ht, hf]
  | owed pending own hl ho hf =>
      have hd := reduce_owed ho (fun w hw => precedes_iff.mpr (h ▸ hl w hw)) hs numbers
      have hstep : ∀ rest, run A ⟨numbers, entries, true⟩ ((a.binary o h b).tokens ++ rest) =
          (a.result A).bind fun x =>
            run A ⟨x :: numbers, .waiting (.binary o) :: entries, true⟩ (b.tokens ++ rest) := by
        intro rest
        rw [ht, hf, run_cons]
        simp only [step, hd, Bool.false_eq_true, and_false, if_false]
        cases a.result A <;> rfl
      cases hx : a.result A with
      | error f =>
          refine .failed f rfl fun rest => ?_
          rw [hstep, hx]
          rfl
      | ok x =>
          simp only [hx, Except.bind] at hstep
          cases hb x with
          | failed f he hf =>
              rw [he]
              exact .failed f rfl fun rest => by rw [hstep, hf]
          | owed later more hl' ho' hf' =>
              refine .owed (later ++ [.binary o]) (more ++ [x])
                (level_le_of_mem_append (w := .binary o)
                  (fun w hw => Nat.le_of_succ_le (hl' w hw)) (Nat.le_of_eq h.symm)) ?_ ?_
              · intro numbers
                rw [ho'.binary o x numbers]
                cases b.result A <;> rfl
              · intro rest
                rw [hstep, hf']
                simp

/-- An expression is read above operators that bind less tightly. -/
theorem reads_expression {level : Nat} (e : Expression level) (numbers : List α)
    (hs : ∀ o : Operator, level ≤ o.precedence → Stops (Waiting.precedes o) entries) :
    Reads A level (e.result A) entries numbers e.tokens := by
  have hp : ∀ o : Operator, o.precedence < 3 := by intro o; cases o <;> decide
  induction e generalizing entries numbers with
  | number n =>
      exact .owed [] [A.number n] (by simp) (fun _ => rfl) fun _ => rfl
  | negate e ih =>
      refine reads_negate (ih numbers fun o ho => ?_)
      exact absurd (hp o) (Nat.not_lt.mpr ho)
  | parens e ih => exact reads_parens (ih numbers fun o _ => by simp [Stops])
  | tighter e ih =>
      have he : e.tighter.result A = e.result A := rfl
      rw [he]
      cases ih numbers fun o ho => hs o (Nat.le_of_succ_le ho) with
      | failed f he hf => exact .failed f he hf
      | owed pending own hl ho hf =>
          exact .owed pending own (fun w hw => Nat.le_of_succ_le (hl w hw)) ho hf
  | @binary level a o h b iha ihb =>
      refine reads_binary (hs o (Nat.le_of_eq h.symm)) (iha numbers hs) fun x => ?_
      refine ihb (x :: numbers) fun p hlt w hw => ?_
      cases hw
      rw [Bool.eq_false_iff]
      intro hc
      have hle : p.precedence ≤ o.precedence := precedes_iff.mp hc
      omega

end Run

theorem evaluateTokens_expression (A : Arithmetic α) (e : Expression 1) :
    evaluateTokens A e.tokens = e.result A := by
  have hn : ∀ o : Operator, 1 ≤ o.precedence → Stops (Waiting.precedes o) [] := by simp [Stops]
  rw [evaluateTokens]
  cases reads_expression e [] hn with
  | failed f he hf =>
      have hr := hf []
      rw [List.append_nil] at hr
      rw [hr, he]
  | owed pending own hl ho hf =>
      have hr := hf []
      rw [List.append_nil] at hr
      have hd : reduce A (fun _ => true) (pending.map .waiting ++ []) (own ++ []) =
          (e.result A).map fun x => ([], [x]) :=
        reduce_owed ho (fun _ _ => rfl) (by simp [Stops]) []
      rw [hr, run]
      simp only [finish, hd]
      cases e.result A <;> rfl

/-- The value of a text that is an expression is that of the expression. It fails exactly where a
divisor counts as zero. -/
theorem evaluate_expression (A : Arithmetic α) (e : Expression 1) (s : String)
    (h : withoutBlanks s = e.text) :
    evaluate A s =
        (if e.dividesByZero A then .error .divisionByZero else .ok (e.value A)) ∧
      Fault.divisionByZero.message = "Division by zero" := by
  refine ⟨?_, rfl⟩
  have ht := (e.text_eq_iff).mp h.symm
  have hne : (withoutBlanks s).isEmpty = false := by
    rw [List.isEmpty_eq_false_iff]
    intro hn
    rw [hn, tokens?] at ht
    exact e.tokens_ne_nil (Option.some.inj ht).symm
  rw [evaluate]
  simp only [hne, ht, Bool.false_eq_true, if_false]
  exact evaluateTokens_expression A e

/-- A sign behind an operator, and a divisor that is zero, over whole numbers. -/
theorem evaluate_expression_signed :
    let A : Arithmetic Int :=
      ⟨fun n => Decimal.ofDigits n.digits.1, (· + ·), (· - ·), (· * ·), (· / ·), (- ·), (· == 0)⟩
    let digit (c : Char) (h : Text.isDigit c = true) : Expression 3 := .number (.ofDigit c h)
    let product : Expression 2 :=
      .binary (.tighter (.negate (digit '3' rfl))) .mul rfl (digit '4' rfl)
    let difference : Expression 1 := .binary (.tighter (.tighter (digit '2' rfl))) .sub rfl product
    let zero : Expression 1 :=
      .binary (.tighter (.tighter (digit '2' rfl))) .sub rfl (.tighter (digit '2' rfl))
    let quotient : Expression 1 :=
      .tighter (.binary (.tighter (digit '1' rfl)) .div rfl (.parens zero))
    (withoutBlanks "2 - -3 * 4" = difference.text ∧ evaluate A "2 - -3 * 4" = .ok 14) ∧
      (withoutBlanks "1 / (2 - 2)" = quotient.text ∧
        evaluate A "1 / (2 - 2)" = .error .divisionByZero) := by
  intro A digit product difference zero quotient
  have hd : withoutBlanks "2 - -3 * 4" = difference.text := by decide
  have hq : withoutBlanks "1 / (2 - 2)" = quotient.text := by decide
  exact ⟨⟨hd, (evaluate_expression A difference _ hd).1⟩,
    hq, (evaluate_expression A quotient _ hq).1⟩

end CommandShell.Calc
