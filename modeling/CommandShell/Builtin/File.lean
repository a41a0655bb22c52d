import CommandShell.Command.Command
import CommandShell.Text.Line

/-! The commands that make, read, write and remove files and directories. -/

namespace CommandShell.Builtin

namespace File

/-- What the system refuses becomes a complaint; other faults stay as they are. -/
def wrap (complain : String → Complaint) (f : FileFault) : Fault :=
  if f.isSystem then .complaint (complain f.message) else .file f

/-! ## Making -/

def mkdirUsage : String := "mkdir <directory_path>"

def makeDirectory (args : List String) (s : Session) : Outcome :=
  match args with
  | [] => s.object (.usage mkdirUsage)
  | target :: _ =>
      s.withPath target fun p =>
        match s.disk.exists? p with
        | .error f => s.fail (.file f)
        | .ok true => s.object (.pathExists p)
        | .ok false =>
            match s.disk.makeDirectories false p with
            | (.error f, disk) => { s with disk }.fail (.file f)
            | (.ok (), disk) => { s with disk }.answer (.text ("Directory created: " ++ p.text))

/-- Makes sure that there is something at a path, and says whether there was before. -/
def ensure (d : Disk) (p : Path) : Except FileFault Bool × Disk :=
  match d.makeDirectories true p.parent with
  | (.error f, d) => (.error f, d)
  | (.ok (), d) =>
      match d.exists? p with
      | .error f => (.error f, d)
      | .ok true => (.ok true, d)
      | .ok false =>
          match d.writeText p true [] with
          | (.error f, d) => (.error f, d)
          | (.ok (), d) => (.ok false, d)

def touch (args : List String) (s : Session) : Outcome :=
  match args with
  | [] => s.object .filePathMissing
  | target :: _ =>
      s.withPath target fun p =>
        match ensure s.disk p with
        | (.error f, disk) => { s with disk }.fail (wrap .fileNotCreated f)
        | (.ok true, disk) => { s with disk }.answer (.text ("Updated file timestamp: " ++ p.text))
        | (.ok false, disk) => { s with disk }.answer (.text ("Created empty file: " ++ p.text))

/-! ## Reading -/

def readUsage : String := "read <file_path> [-n]"

def numberFlag : String := "-n"

def numberWidth : Nat := 4

def readLines (d : Disk) (p : Path) : Except FileFault (List String) :=
  match d.readText p with
  | .error f => .error f
  | .ok text => .ok (Text.lines (Text.unifyNewlines text))

/-- What cannot be read as text counts with what the system refuses. -/
def wrapUnreadable (complain : String → Complaint) (f : FileFault) : Fault :=
  match f with
  | .notText fault => .complaint (complain fault.message)
  | f => wrap complain f

def number (ls : List String) : List String :=
  ls.zipIdx.map fun (l, n) => Text.padLeft numberWidth (toString (n + 1)) ++ " | " ++ l

def read (args : List String) (s : Session) : Outcome :=
  match args.filter (· ≠ numberFlag) with
  | [] => s.object (.usage readUsage)
  | target :: _ =>
      s.withPath target fun p =>
        match s.disk.isFile p with
        | .error f => s.fail (.file f)
        | .ok false => s.object (.fileNotFound p)
        | .ok true =>
            match readLines s.disk p with
            | .error f => s.fail (wrapUnreadable .fileNotRead f)
            | .ok ls =>
                let shown := if args.contains numberFlag then number ls else ls
                s.answer (.text (Text.joinLines shown))

/-! ## Writing -/

def writeUsage : String := "write <file> [-a] <content>"

def appendFlag : String := "-a"

/-- The pieces of a text between the places where a backslash has an n after it. -/
def pieces : List Char → List (List Char)
  | [] => [[]]
  | '\\' :: 'n' :: rest => [] :: pieces rest
  | c :: rest =>
      match pieces rest with
      | [] => [[c]]
      | piece :: others => (c :: piece) :: others

/-- The lines that a text is written as, each with its end. The empty text has none. -/
def content (cs : List Char) : List String :=
  if cs.isEmpty then [] else (pieces cs).map fun piece => String.ofList (piece ++ ['\n'])

/-- Writes lines into a file and makes the directories that lead to it. -/
def store (d : Disk) (p : Path) (append : Bool) (ls : List String) : Except FileFault Unit × Disk :=
  match d.makeDirectories true p.parent with
  | (.error f, d) => (.error f, d)
  | (.ok (), d) => d.writeText p append ls

def write (args : List String) (s : Session) : Outcome :=
  match args with
  | target :: word :: words =>
      s.withPath target fun p =>
        let append := (word :: words).contains appendFlag
        let text := Text.joinWords ((word :: words).filter (· ≠ appendFlag))
        match store s.disk p append (content text.toList) with
        | (.error f, disk) => { s with disk }.fail (wrap .fileNotWritten f)
        | (.ok (), disk) =>
            let verb := if append then "appended to" else "written to"
            { s with disk }.answer (.text ("Content " ++ verb ++ " file: " ++ p.text))
  | _ => s.object (.usage writeUsage)

/-! ## Removing -/

def rmUsage : String := "rm <path1> [<path2> ...]"

/-- Removes what is at a path, or says why it could not be removed. -/
def removeAt (d : Disk) (p : Path) : Except FileFault (Option String) × Disk :=
  match d.exists? p, d.isLink p with
  | .error f, _ | .ok false, .error f => (.error f, d)
  | .ok false, .ok false =>
      (.ok (some ("File or directory does not exist: " ++ p.text)), d)
  | .ok true, _ | .ok false, .ok true =>
      match d.delete p with
      | (.ok (), d) => (.ok none, d)
      | (.error _, d) => (.ok (some ("Failed to delete: " ++ p.text)), d)

/-- Removes targets one after the other, and says which could not be removed. A target that names
no path, or one that cannot even be looked up, ends the work. -/
def removeAll (resolve : String → Except FileFault Path) (d : Disk) :
    List String → Except FileFault (List String) × Disk
  | [] => (.ok [], d)
  | target :: rest =>
      match resolve target with
      | .error f => (.error f, d)
      | .ok p =>
          match removeAt d p with
          | (.error f, d) => (.error f, d)
          | (.ok failure, d) =>
              let (r, d) := removeAll resolve d rest
              (r.map (failure.toList ++ ·), d)

def remove (args : List String) (s : Session) : Outcome :=
  if args.isEmpty then s.object (.usage rmUsage)
  else
    match removeAll s.resolve s.disk args with
    | (.error f, disk) => { s with disk }.fail (.file f)
    | (.ok [], disk) => { s with disk }.answer (.text "Deletion completed successfully.")
    | (.ok failures, disk) => { s with disk }.answer (.result (.failure (Text.joinLines failures)))

/-! ## Room -/

/-- How a path is resolved for something that climbs from there. -/
def climbAt (climb : Disk → Path → Climb) (target : String) (s : Session) : Climb :=
  (Path.commandClimb target).andThen
    (match s.resolve target with
    | .ok p => climb s.disk p
    | .error _ => [])

def makingClimb (args : List String) (s : Session) : Climb :=
  match args with
  | [] => []
  | target :: _ => climbAt Disk.makingClimb target s

def touchingClimb (args : List String) (s : Session) : Climb :=
  match args with
  | [] => []
  | target :: _ => climbAt (fun d p => d.makingClimb p.parent) target s

def readingClimb (args : List String) : Climb :=
  match args.filter (· ≠ numberFlag) with
  | [] => []
  | target :: _ => Path.commandClimb target

def writingClimb (args : List String) (s : Session) : Climb :=
  match args with
  | target :: _ :: _ => climbAt (fun d p => .entry :: d.makingClimb p.parent) target s
  | _ => []

/-- Targets that come before one that overruns the stack are removed. -/
def removalOverrun? (room : Nat) : List String → Session → Option Overrun
  | [], _ => none
  | target :: rest, s =>
      match (climbAt Disk.deletingClimb target s).overflow? room with
      | some o => some (o, s)
      | none =>
          match s.resolve target with
          | .error _ => none
          | .ok p =>
              match removeAt s.disk p with
              | (.error _, _) => none
              | (.ok _, disk) => removalOverrun? room rest { s with disk }

end File

def mkdir : Command where
  card := ⟨"mkdir", "Creates a directory", File.mkdirUsage, []⟩
  handler := .ofAction File.makeDirectory
  strain := .ofClimb File.makingClimb

def touch : Command where
  card := ⟨"touch", "Creates an empty file", "touch <file_path>", []⟩
  handler := .ofAction File.touch
  strain := .ofClimb File.touchingClimb

def read : Command where
  card := ⟨"read", "Reads and displays the contents of a file", File.readUsage, []⟩
  handler := .ofAction File.read
  strain := .ofClimb fun args _ => File.readingClimb args

def write : Command where
  card := ⟨"write", "Writes content to a file.", File.writeUsage, []⟩
  handler := .ofAction File.write
  strain := .ofClimb File.writingClimb

def rm : Command where
  card := ⟨"rm", "Removes files or directories.", File.rmUsage, ["remove", "delete", "del"]⟩
  handler := .ofAction File.remove
  strain _ := File.removalOverrun?

end CommandShell.Builtin
