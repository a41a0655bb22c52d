import CommandShell.Calc.Answer
import CommandShell.Command.Command

/-! Commands whose answer depends on their arguments alone. -/

namespace CommandShell.Builtin

def print : Command where
  card := ⟨"print", "Displays the given text", "print [text]", ["echo"]⟩
  handler _ args := .answer (.ok (.text (Text.joinWords args)))
  strain := .slight

namespace Calculate

def usage : String := "calc <expression>"

def complain (cause : String) : Except Fault Output :=
  .error (.complaint (.calculation cause))

/-- A value too large for a float is no objection to the expression, and is reported as it is. -/
def answer (expression : String) : Except Fault Output :=
  match Calc.evaluate Calc.floats expression with
  | .error f => complain f.message
  | .ok x =>
      match Calc.format x with
      | .ok text => .ok (.text text)
      | .error .infinite => .error (.number .infinite)
      | .error f => complain f.message

/-- How an expression is freed of blanks. -/
def climb : Climb :=
  [.call, .entry, .entry, .kindTest, .call]

end Calculate

def calculate : Command where
  card := ⟨"calc", "Performs basic arithmetic calculations", Calculate.usage, []⟩
  handler _ args :=
    match args with
    | [] => .answer (.error (.complaint (.usage Calculate.usage)))
    | _ => .answer (Calculate.answer (Text.joinWords args))
  strain := .ofClimb fun args _ => if args.isEmpty then [] else Calculate.climb

end CommandShell.Builtin
