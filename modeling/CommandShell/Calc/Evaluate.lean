import CommandShell.Calc.Token

/-!
Arithmetic expressions evaluated with a stack of numbers and a stack of waiting operators. The
numbers may be of any kind that has the four operations, a sign and a test for zero.
-/

namespace CommandShell.Calc

inductive Fault
  | empty
  | invalidCharacter (text : String)
  | mismatchedParentheses
  | malformed
  | divisionByZero
  deriving DecidableEq, Repr

def Fault.message : Fault → String
  | empty => "Empty expression"
  | invalidCharacter text => "Invalid character in expression: " ++ text
  | mismatchedParentheses => "Mismatched parentheses"
  | malformed => "Malformed expression"
  | divisionByZero => "Division by zero"

/-- The numbers that expressions are about. -/
structure Arithmetic (α : Type) where
  number : Numeral → α
  add : α → α → α
  sub : α → α → α
  mul : α → α → α
  div : α → α → α
  neg : α → α
  isZero : α → Bool

/-- An operator that waits for its last operand. -/
inductive Waiting
  | negate
  | binary (o : Operator)
  deriving DecidableEq, Repr

inductive Entry
  | paren
  | waiting (w : Waiting)
  deriving DecidableEq, Repr

def Operator.precedence : Operator → Nat
  | add => 1
  | sub => 1
  | mul => 2
  | div => 2

/-- Whether a waiting operator is applied before an operator that follows it. -/
def Waiting.precedes (o : Operator) : Waiting → Bool
  | negate => true
  | binary p => o.precedence ≤ p.precedence

variable {α : Type}

/-- Applies an operator to two numbers. -/
def Operator.apply (A : Arithmetic α) (a b : α) : Operator → Except Fault α
  | add => .ok (A.add a b)
  | sub => .ok (A.sub a b)
  | mul => .ok (A.mul a b)
  | div => if A.isZero b then .error .divisionByZero else .ok (A.div a b)

/-- Applies an operator to the numbers on top of the stack. -/
def Waiting.apply (A : Arithmetic α) : Waiting → List α → Except Fault (List α)
  | negate, x :: numbers => .ok (A.neg x :: numbers)
  | binary o, b :: a :: numbers => (o.apply A a b).map (· :: numbers)
  | _, _ => .error .malformed

structure Stacks (α : Type) where
  numbers : List α
  entries : List Entry
  /-- Whether an operand is due, so that a minus is a sign. -/
  operandDue : Bool

/-- Applies the operators on top of the stack that pass a test, down to the next parenthesis. -/
def reduce (A : Arithmetic α) (test : Waiting → Bool) :
    List Entry → List α → Except Fault (List Entry × List α)
  | .waiting w :: entries, numbers =>
      if test w then
        match w.apply A numbers with
        | .error e => .error e
        | .ok numbers => reduce A test entries numbers
      else .ok (.waiting w :: entries, numbers)
  | entries, numbers => .ok (entries, numbers)

def step (A : Arithmetic α) (s : Stacks α) : Token → Except Fault (Stacks α)
  | .number n => .ok ⟨A.number n :: s.numbers, s.entries, false⟩
  | .openParen => .ok ⟨s.numbers, .paren :: s.entries, true⟩
  | .closeParen =>
      match reduce A (fun _ => true) s.entries s.numbers with
      | .error e => .error e
      | .ok (.paren :: entries, numbers) => .ok ⟨numbers, entries, false⟩
      | .ok _ => .error .mismatchedParentheses
  | .operator o =>
      if o = .sub ∧ s.operandDue then .ok ⟨s.numbers, .waiting .negate :: s.entries, true⟩
      else
        match reduce A (Waiting.precedes o) s.entries s.numbers with
        | .error e => .error e
        | .ok (entries, numbers) => .ok ⟨numbers, .waiting (.binary o) :: entries, true⟩

def run (A : Arithmetic α) (s : Stacks α) : List Token → Except Fault (Stacks α)
  | [] => .ok s
  | t :: rest =>
      match step A s t with
      | .error e => .error e
      | .ok s => run A s rest

def finish (A : Arithmetic α) (s : Stacks α) : Except Fault α :=
  match reduce A (fun _ => true) s.entries s.numbers with
  | .error e => .error e
  | .ok (_ :: _, _) => .error .mismatchedParentheses
  | .ok ([], [x]) => .ok x
  | .ok ([], _) => .error .malformed

def evaluateTokens (A : Arithmetic α) (ts : List Token) : Except Fault α :=
  match run A ⟨[], [], true⟩ ts with
  | .error e => .error e
  | .ok s => finish A s

/-- The value of an expression. -/
def evaluate (A : Arithmetic α) (s : String) : Except Fault α :=
  let text := withoutBlanks s
  if text.isEmpty then .error .empty
  else
    match tokens? text with
    | none => .error (.invalidCharacter (String.ofList text))
    | some ts => evaluateTokens A ts

end CommandShell.Calc
