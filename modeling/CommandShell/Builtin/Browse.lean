import CommandShell.Columns
import CommandShell.Command.Command
import CommandShell.Text.Order

/-! The commands that move between directories and list them. -/

namespace CommandShell.Builtin

namespace Browse

/-- Shows where the session is, or moves it to a directory. -/
def change (args : List String) (s : Session) : Outcome :=
  match args with
  | [] => s.answer (.text s.cwd.text)
  | target :: _ =>
      s.withPath target fun p =>
        match s.disk.isDirectory p with
        | .error f => s.fail (.file f)
        | .ok false => s.object (.notDirectory p)
        | .ok true => { s with cwd := p }.answer .nothing

def lineWidth : Int := 80

/-- Names in a listing; those of directories end in a slash. -/
def names (children : List (String × Node)) : List String :=
  Text.sort (children.map fun (name, node) => if node.isDirectory then name ++ "/" else name)

/-- The names in a directory, or the cause why they cannot be listed. -/
def entries (d : Disk) (p : Path) : Except String (List String) :=
  match d.exists? p with
  | .error f => .error f.message
  | .ok false => .error ("Directory not found: " ++ p.text)
  | .ok true =>
      match d.find p with
      | .ok (some place, .directory) => .ok (names (d.children place))
      | _ => .error (Complaint.notDirectory p).message

def listAt (s : Session) (p : Path) : Outcome :=
  match entries s.disk p with
  | .error cause => s.object (.listingFailed cause)
  | .ok [] => s.answer (.text "Directory is empty.")
  | .ok names =>
      s.answer (.lines (("Directory: " ++ p.text) :: "" :: Columns.layOut names lineWidth))

def list (args : List String) (s : Session) : Outcome :=
  let target := args.headD ""
  if target = "" then listAt s s.cwd else s.withPath target (listAt s)

def changingClimb (args : List String) : Climb :=
  match args with
  | [] => []
  | target :: _ => Path.commandClimb target

/-- How a directory is listed; the kinds of its entries are looked at from higher up. -/
def listingClimb (d : Disk) (p : Path) : Climb :=
  [.entry, .entry, .entry, .entry, .text, .entry]
    ++ match entries d p with
      | .ok (_ :: _) => [.entry, .entry, .call]
      | _ => []

def climb (args : List String) (s : Session) : Climb :=
  let target := args.headD ""
  if target = "" then listingClimb s.disk s.cwd
  else
    (Path.commandClimb target).andThen
      (match s.resolve target with
      | .ok p => listingClimb s.disk p
      | .error _ => [])

end Browse

def cd : Command where
  card := ⟨"cd", "Changes the current directory.", "cd [directory]", []⟩
  handler := .ofAction Browse.change
  strain := .ofClimb fun args _ => Browse.changingClimb args

def ls : Command where
  card := ⟨"ls", "Lists files and directories.", "ls [directory]", ["dir"]⟩
  handler := .ofAction Browse.list
  strain := .ofClimb Browse.climb

end CommandShell.Builtin
