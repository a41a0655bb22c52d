import CommandShell.Execution.Stack
import CommandShell.Startup

/-!
The conversation with a user: a banner, then a prompt before each line and the output after it,
until the input ends or a command asks to leave.
-/

namespace CommandShell.Console

/-- The encoding of standard output, by what it refuses. -/
structure Encoding where
  /-- The message with which a text is refused, if it is. -/
  refusal? : String → Option String
  takesAscii : ∀ s : String, s.toList.all (·.toNat < 0x80) = true → refusal? s = none

namespace Encoding

/-- UTF-8 refuses halves of surrogate pairs. -/
def utf8 : Encoding where
  refusal? s := (Text.EncodeFault.find? s.toList).map Text.EncodeFault.message
  takesAscii s h := by
    rw [Text.EncodeFault.find?_of_ascii (by simpa using h)]
    rfl

end Encoding

def banner : String :=
  "ConsoleX\nType 'help' for commands, 'exit' to quit.\n\n"

def prompt (s : Shell) : String :=
  s.session.cwd.text ++ "> "

/-- Clears the screen and moves to its upper left corner. -/
def clearScreen : String :=
  "\x1b[2J\x1b[H"

/-- What is printed between two states: a clearing for each time the screen was cleared on the
way, and then the output. -/
def printed (s s' : Shell) (output : Option String) : String :=
  String.join (List.replicate (s'.session.clears - s.session.clears) clearScreen)
    ++ (output.map (· ++ "\n")).getD ""

/-- The level that the console itself takes. -/
def ownLevels : Nat := 1

section Conversation

variable (e : Encoding) (room : Room)

/-- Takes a line and gives what is printed, with the fault of a line that could not be executed or
of an output that could not be printed. -/
def respondOnStack (line : String) (s : Shell) : String × Option Fault × Shell :=
  match Stack.execute (room.above ownLevels) line s with
  | (.error f, s') => (printed s s' none, some f, s')
  | (.ok none, s') => (printed s s' none, none, s')
  | (.ok (some text), s') =>
      match e.refusal? text with
      | some message => (printed s s' none, some (.unprintable message), s')
      | none => (printed s s' (some text), none, s')

/-- The pieces that are printed up to the first fault, and that fault. No line is read where the
prompt cannot be printed. -/
def converseOnStack : List String → Shell → List String × Option Fault × Shell
  | lines, s =>
      if s.session.exitRequested then ([], none, s)
      else
        match e.refusal? (prompt s) with
        | some message => ([], some (.unprintable message), s)
        | none =>
            match lines with
            | [] => ([prompt s, "\n"], none, s)
            | line :: rest =>
                match respondOnStack e room line s with
                | (output, some f, s') => ([prompt s, output], some f, s')
                | (output, none, s') =>
                    let (pieces, f, s'') := converseOnStack rest s'
                    (prompt s :: output :: pieces, f, s'')

end Conversation

/-- The lines of an input. Only a newline ends a line, and the last one may go without. -/
def inputLines (cs : List Char) : List (List Char) :=
  match cs with
  | [] => []
  | c :: rest =>
      if c = '\n' then [] :: inputLines rest
      else
        match inputLines rest with
        | [] => [[c]]
        | line :: others => (c :: line) :: others

/-- Makes the file for the log, if the settings name one. -/
def prepareLog (c : Settings) (d : Disk) : Except Fault Disk :=
  match c.logFile with
  | .error f => .error f
  | .ok none => .ok d
  | .ok (some p) =>
      match d.startPath with
      | .error f => .error (.file f)
      | .ok start =>
          match d.writeText (start.join p).normalize true [] with
          | (.error f, _) => .error (.file f)
          | (.ok (), d) => .ok d

/-- Starts from the settings in their usual place. The surroundings are as they were left also if
there is no start. -/
def open_ (w : Surroundings) : Except Fault Shell × Surroundings :=
  match Settings.load (w.room.above ownLevels) w.disk Settings.defaultPath with
  | .error f => (.error (.file f), w)
  | .ok c =>
      match c.checkLevel, prepareLog c w.disk with
      | .error f, _ | .ok (), .error f => (.error f, w)
      | .ok (), .ok disk =>
          (Shell.ofSettings c true ({ w with disk }.above ownLevels), { w with disk })

def linesOf (input : String) : List String :=
  (inputLines input.toList).map String.ofList

/-- All that is printed over an input, up to the first fault. -/
def transcriptOnStack (e : Encoding) (room : Room) (input : String) (s : Shell) :
    String × Option Fault × Shell :=
  let (pieces, f, s) := converseOnStack e room (linesOf input) s
  (String.join (banner :: pieces), f, s)

end CommandShell.Console
