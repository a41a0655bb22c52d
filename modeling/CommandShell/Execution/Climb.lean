import CommandShell.Execution.Shell

/-! What execution asks of the stack of the host, step by step. -/

namespace CommandShell.Stack

/-! ## Words -/

/-- A step from a name to what it stands for. -/
def hopClimb (entries : Alias.Entries) (name : String) : Climb :=
  Climb.andThen [.entry, .entry, .entry, .call] (.entry :: Alias.readingClimb entries name)

/-- The step to a call that stands for nothing else. -/
def arrivalClimb : Climb :=
  [.entry, .entry, .entry, .call, .call]

/-- Expanding variables and cutting a text into words. -/
def wordsClimb (text : String) : Climb :=
  if text = "" then [.entry, .entry]
  else if Syntax.holdsReference text then [.entry, .entry, .call, .entry, .call, .call]
  else [.entry, .entry, .call]

/-! ## Commands and substitutions -/

/-- The levels between whoever calls a command and what the command does. -/
def commandLevels : Nat := 3

/-- Setting out to evaluate a substitution. -/
def evaluatingClimb : Climb :=
  [.entry, .entry, .call, .entry]

/-- Entering a level of nesting for a substitution, or being refused. -/
def nestingClimb (refused : Bool) : Climb :=
  [.entry, .entry, .call, .entry, .entry] ++ if refused then [.text] else []

/-- Looking for substitutions. -/
def searchingClimb (text : String) : Climb :=
  if text = "" then [.entry] else [.entry, .entry, .comparison]

/-- Being refused one more pass. -/
def refusedPassClimb : Climb :=
  [.entry, .call, .entry, .text]

/-! ## Lines -/

/-- The levels between whoever runs a line and its statements. -/
def lineLevels : Nat := 3

/-- Entering a level of nesting for a line, or being refused. -/
def lineClimb (refused : Bool) : Climb :=
  [.entry, .call, .call, .entry, .entry] ++ if refused then [.text] else []

end CommandShell.Stack
