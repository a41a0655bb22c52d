import CommandShell.Command.Strain

/-!
Commands. A command is a procedure that acts on the session and may ask for lines to be run in
between; how lines are run is left to whoever runs the procedure.
-/

namespace CommandShell

inductive Procedure
  | finish (act : Session → Outcome)
  | inspect (next : Session → Procedure)
  | update (change : Session → Session) (next : Procedure)
  | line (text : String) (next : List Result → Procedure)

namespace Procedure

/-- Ends without touching the session. -/
def answer (o : Except Fault Output) : Procedure :=
  finish fun s => (o, s)

end Procedure

/-- What is known of a command without running it. -/
structure Card where
  name : String
  description : String
  usage : String
  aliases : List String
  deriving DecidableEq, Repr

/-- The commands that can be called, by their names and other names in lower case. -/
abbrev Directory := OrderedMap String Card

abbrev Handler := Directory → List String → Procedure

/-- How a command overruns the room that is left to it, if it does. -/
abbrev Strain := Directory → Nat → List String → Session → Option Overrun

structure Command where
  card : Card
  handler : Handler
  strain : Strain

/-- A command that neither looks at the other commands nor runs lines. -/
def Handler.ofAction (act : List String → Session → Outcome) : Handler :=
  fun _ args => .finish (act args)

namespace Strain

/-- For commands that climb no higher than their call did. -/
def slight : Strain :=
  fun _ _ _ _ => none

/-- For commands that change nothing before they have climbed. -/
def ofClimb (climb : List String → Session → Climb) : Strain :=
  fun _ room args s => (climb args s).overrun? room s

end Strain

end CommandShell
