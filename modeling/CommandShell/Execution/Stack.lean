import CommandShell.Execution.Climb
import CommandShell.Syntax.Statement
import CommandShell.Syntax.Substitution

/-!
Execution of lines. A line is cut into statements; in each, substitutions are expanded, then
variables, then aliases, and the command is called. A command may run lines in turn: everything
here is given the way to run a line, and the knot is tied at the end over the depth that is left.

Everything is told how much room the stack of the host has above its caller. Where that is bounded
and the bounds on nesting lie beyond it, a run that goes too deep overflows the stack: the innermost
command that is under way fails, and a line that no command asked for is given up. What was done
before stays.
-/

namespace CommandShell

namespace Stack

/-- What is given or raised, and the state after it. -/
abbrev Action (α : Type) := Shell → Except Fault α × Shell

/-- A way to run a line in some room. -/
abbrev Runner := Room → String → Action (List Result)

variable {α : Type}

/-- Goes on after a climb for which there is room. -/
def after (c : Climb) (room : Room) (act : Action α) : Action α := fun s =>
  match room.overflow? c with
  | some o => (.error (.overflow o), s)
  | none => act s

/-- Acts one level of nesting deeper. The level is left again also where the action fails. -/
def nested (act : Action α) : Action α := fun s =>
  if s.isFull then (.error (.limit (.nesting s.maxDepth)), s)
  else
    let (r, s) := act s.enter
    (r, s.leave)

/-- Acts while substitutions are being expanded, and no longer, even where the action fails. -/
def guarded (act : Action α) : Action α := fun s =>
  let (r, s) := act { s with expanding := true }
  (r, { s with expanding := false })

/-- A value that is made of the message in place of a failure of some kind. -/
def recovered (catches : Fault → Bool) (recover : String → α) : Except Fault α → Except Fault α
  | .error f => if catches f then f.message.map recover else .error f
  | .ok a => .ok a

/-- Recovers from failures of some kind. -/
def rescue (catches : Fault → Bool) (recover : String → α) (act : Action α) : Action α := fun s =>
  let (r, s) := act s
  (recovered catches recover r, s)

/-! ## Words -/

/-- Follows a call through aliases, each step one level above the one before. A walk that would
reach the limit is given up. -/
def resolve (entries : Alias.Entries) (maxDepth : Int) (room : Room) (i : Invocation)
    (walked : Int) : Except Fault Invocation :=
  match room.overflow? (hopClimb entries i.name), Alias.step entries i with
  | some o, _ => .error (.overflow o)
  | none, .error f => .error (.json f)
  | none, .ok (next, true) =>
      if walked + 1 ≥ maxDepth then .error (.limit (.aliases maxDepth))
      else resolve entries maxDepth (room.above 1) next (walked + 1)
  | none, .ok (next, false) =>
      match room.overflow? arrivalClimb with
      | some o => .error (.overflow o)
      | none => .ok next
termination_by (maxDepth - walked).toNat

/-- The command that the words of a text call, once variables and aliases are replaced. -/
def read (room : Room) (text : String) (s : Shell) : Except Fault (Option Invocation) :=
  match room.overflow? (wordsClimb text) with
  | some o => .error (.overflow o)
  | none =>
      match Syntax.tokenize (s.session.expandVariables text) with
      | [] => .ok none
      | name :: args =>
          (resolve s.session.store.entries s.maxDepth (room.above 1) ⟨name, args⟩ 0).map some

/-- The command that a text calls, with no regard to substitutions. -/
def parsePlain (room : Room) (raw : String) : Action (Option Invocation) :=
  after [.entry] room fun s =>
    (if Text.isBlankText raw then .ok none else read room raw s, s)

/-! ## Commands -/

/-- Runs a procedure, which fails at the first line that fails. -/
def runProcedure (run : String → Action (List Result)) : Procedure → Action Output
  | .finish act, s =>
      let (r, session) := act s.session
      (r, { s with session })
  | .inspect next, s => runProcedure run (next s.session) s
  | .update change next, s => runProcedure run next { s with session := change s.session }
  | .line text next, s =>
      match run text s with
      | (.error f, s) => (.error f, s)
      | (.ok rs, s) => runProcedure run (next rs) s

/-- Performs a command with some room above it. -/
def perform (run : Runner) (room : Room) (c : Command) (args : List String) : Action Output :=
  fun s =>
    match room.bind fun levels => c.strain s.registry.directory levels args s.session with
    | some (o, session) => (.error (.overflow o), { s with session })
    | none =>
        match runProcedure (run room) (c.handler s.registry.directory args) s with
        | (.ok output, s) => s |> after output.resultClimb room fun s => (.ok output, s)
        | (.error f, s) => (.error f, s)

/-- The command whose call also clears the screen. -/
def clearName : String := "clear"

/-- Calls a command. Whatever it fails with becomes its result, if that has a text. -/
def dispatchWith (run : Runner) (room : Room) (i : Invocation) : Action Result := fun s =>
  match s.registry.find? i.name with
  | none => (.ok (.failure (Complaint.commandNotFound i.name).message), s)
  | some c =>
      let s := if c.card.name = clearName then s.announceClear else s
      let (r, s) := perform run (room.above commandLevels) c i.args s
      (Result.ofOutcome r, s)

/-! ## Substitutions -/

def errorLabel : String := "ERROR: "

/-- The text of a result where it takes the place of a substitution. -/
def substituted (r : Result) : String :=
  if r.isError then errorLabel ++ r.text else r.text

/-- The text that takes the place of a substitution with some content. -/
def evaluate (run : Runner) (room : Room) (content : String) : Action String :=
  after evaluatingClimb room <| rescue Fault.isConsole (errorLabel ++ ·) fun s =>
    match parsePlain (room.above 1) content s with
    | (.error f, s) => (.error f, s)
    | (.ok none, s) => (.ok "", s)
    | (.ok (some i), s) =>
        s |> after (nestingClimb s.isFull) room (nested fun s =>
          let (r, s) := dispatchWith run (room.above 1) i s
          (r.map substituted, s))

/-- What is raised where a text needs more passes than there may be. -/
def passesExceeded (room : Room) (maxPasses : Int) : Fault :=
  match room.overflow? refusedPassClimb with
  | some o => .overflow o
  | none => .limit (.substitution maxPasses)

/-- Expands the substitutions of a text. -/
def expandWith (run : Runner) (room : Room) (text : String) : Action String :=
  after (searchingClimb text) room fun s =>
    Syntax.expandSubstitutions (passesExceeded room s.maxPasses) (evaluate run (room.above 1))
      s.maxPasses text s

/-- The command that a statement calls. Substitutions are expanded unless that is already under
way further out. -/
def parseWith (run : Runner) (room : Room) (raw : String) : Action (Option Invocation) :=
  after [.entry] room fun s =>
    if Text.isBlankText raw then (.ok none, s)
    else if s.expanding then (read room raw s, s)
    else
      match guarded (expandWith run (room.above 1) raw) s with
      | (.error f, s) => (.error f, s)
      | (.ok text, s) => (read room text s, s)

/-! ## Lines -/

/-- Runs one statement; one that calls nothing has no result. -/
def runStatement (run : Runner) (room : Room) (statement : String) : Action (Option Result) :=
  fun s =>
    match parseWith run room statement s with
    | (.error f, s) =>
        (recovered Fault.isConsole (fun text => some (.failure text)) (.error f), s)
    | (.ok none, s) => (.ok none, s)
    | (.ok (some i), s) =>
        let (r, s) := dispatchWith run room i s
        (r.map some, s)

/-- Runs statements up to the first that fails. -/
def runStatements (run : Runner) (room : Room) : List String → Action (List Result)
  | [], s => (.ok [], s)
  | statement :: rest, s =>
      match runStatement run room statement s with
      | (.error f, s) => (.error f, s)
      | (.ok r, s) =>
          let (rs, s) := runStatements run room rest s
          (rs.map (r.toList ++ ·), s)

/-- Runs a line with the runner for the lines inside it. -/
def runLineWith (inner : Runner) : Runner := fun room line =>
  after [.entry] room fun s =>
    if Text.isBlankText line then (.ok [], s)
    else
      s |> after (lineClimb s.isFull) room
        (rescue Fault.isLimit (fun message => [.failure message])
          (nested (runStatements inner (room.above lineLevels) (Syntax.splitStatements line))))

/-- Runs lines inside one another as deep as a count goes. -/
def runLineWithin : Nat → Runner
  | 0 => runLineWith fun _ _ s => (.ok [], s)
  | count + 1 => runLineWith (runLineWithin count)

/-- Runs every statement of a line in order. Each line inside another is a level deeper, so that
the depth that is left bounds them. -/
def runLine : Runner := fun room line s =>
  runLineWithin s.depthLeft room line s

/-- Runs a line if there is one. -/
def runInput (room : Room) (line : Option String) : Action (List Result) :=
  match line with
  | none => after [.entry] room fun s => (.ok [], s)
  | some line => runLine room line

/-- Runs a line if there is one, and gives the text to be shown, if there is any. -/
def execute (room : Room) (line : Option String) : Action (Option String) :=
  after [.entry] room fun s =>
    let (rs, s) := runInput (room.above 1) line s
    (rs.map Result.shown, s)

/-- Calls a command. -/
def dispatch : Room → Invocation → Action Result :=
  dispatchWith runLine

/-- Expands the substitutions of a text. -/
def expandSubstitutions : Room → String → Action String :=
  expandWith runLine

/-- The command that a text calls. -/
def parse (room : Room) (raw : String) : Action (Option Invocation) :=
  after [.entry] room (parseWith runLine (room.above 1) raw)

/-- Makes a result of what a command would hand back. -/
def toResult (room : Room) (o : Output) : Except Fault Result :=
  match room.overflow? (.entry :: o.resultClimb) with
  | some o => .error (.overflow o)
  | none => o.toResult.mapError .json

end Stack

/-- Where there are no commands that substitutions could call, a text is kept as it is. -/
def expandDetached (text : String) : String :=
  text

/-- The command that a text calls where there are no commands, variables or aliases. -/
def parseDetached (raw : String) : Option Invocation :=
  if Text.isBlankText raw then none
  else
    match Syntax.tokenize (expandDetached raw) with
    | [] => none
    | name :: args => some ⟨name, args⟩

end CommandShell
