import CommandShell.Builtin.File

/-! The command that runs the lines of a file. -/

namespace CommandShell.Builtin

namespace Script

def usage : String := "script <script_file>"

/-- The lines of a script that are run: neither blank nor a comment. -/
def steps (ls : List String) : List String :=
  (ls.map Text.trim).filter fun l => l ≠ "" ∧ l.toList.head? ≠ some '#'

def read (target : String) (s : Session) : Except Fault (List String) :=
  match s.resolve target with
  | .error f => .error (.file f)
  | .ok p =>
      match s.disk.isFile p with
      | .error f => .error (.file f)
      | .ok false => .error (.complaint (.scriptNotFound p))
      | .ok true =>
          match File.readLines s.disk p with
          | .error f => .error (File.wrapUnreadable .scriptNotRead f)
          | .ok ls => .ok (steps ls)

/-- The texts of some results; empty ones are dropped. -/
def texts (rs : List Result) : List String :=
  (rs.map Result.text).filter (· ≠ "")

/-- Runs lines, and goes on with the texts of all their results. -/
def runLines (next : List String → Procedure) : List String → Procedure
  | [] => next []
  | l :: rest => .line l fun rs => runLines (fun later => next (texts rs ++ later)) rest

def report (shown : List String) : Procedure :=
  .answer (.ok
    (if shown.isEmpty then .text "Script executed successfully with no output."
    else .lines shown))

def run (args : List String) : Procedure :=
  match args with
  | [] => .answer (.error (.complaint (.usage usage)))
  | target :: _ =>
      .inspect fun s =>
        match read target s with
        | .error f => .answer (.error f)
        | .ok ls => runLines report ls

/-- How a script is found and read. -/
def climb (args : List String) (s : Session) : Climb :=
  match args with
  | [] => []
  | target :: _ =>
      Path.resolvingClimb target
        ++ match s.resolve target with
          | .ok p => if s.disk.isFile p matches .ok true then [.call] else []
          | .error _ => []

end Script

def script : Command where
  card := ⟨"script", "Executes commands from a script file.", Script.usage, []⟩
  handler _ args := Script.run args
  strain := .ofClimb Script.climb

end CommandShell.Builtin
