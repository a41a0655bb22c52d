import CommandShell.Command.Command
import CommandShell.Files.Executable

/-! The command that opens a file with the system's opener, or launches a program. -/

namespace CommandShell.Builtin

namespace Launch

def opener : String := "xdg-open"

def find? (s : Session) (name : String) : Option String :=
  Executable.find? s.disk (s.environment.get? "PATH") name

def start (s : Session) (command : List String) (directory : Option Path) : Session :=
  { s with exchange := s.exchange.record (.launch command (directory.map Path.text)) }

def openFile (p : Path) (s : Session) : Outcome :=
  match find? s opener with
  | none => s.object (.noOpener opener)
  | some _ => (start s [opener, p.text] none).answer (.text ("File opened: " ++ p.text))

def launch (name : String) (args : List String) (s : Session) : Outcome :=
  match find? s name with
  | none => s.object (.notOpened name)
  | some program =>
      (start s (program :: args) (some s.cwd)).answer (.text ("Application launched: " ++ name))

def run (args : List String) (s : Session) : Outcome :=
  match args with
  | [] => s.object .openTargetMissing
  | target :: args =>
      s.withPath target fun p =>
        match s.disk.isDirectory p, s.disk.exists? p with
        | .error f, _ | _, .error f => s.fail (.file f)
        | .ok true, _ => s.object (.openDirectory p)
        | _, .ok true => openFile p s
        | _, .ok false => launch target args s

def climb (args : List String) : Climb :=
  match args with
  | [] => []
  | target :: _ => Path.commandClimb target

end Launch

def open_ : Command where
  card :=
    ⟨"open", "Open file in the default OS application or run an application from system PATH",
      "open <file_path_or_app_name> [args...]", []⟩
  handler := .ofAction Launch.run
  strain := .ofClimb fun args _ => Launch.climb args

end CommandShell.Builtin
