import CommandShell.Files.Path
import CommandShell.Json.Fault
import CommandShell.Text.Quoted
import CommandShell.Text.Utf8

/-! What can go wrong with a file. -/

namespace CommandShell

/-- The system's reasons to refuse. -/
inductive Errno
  | noEntry
  | busy
  | exists_
  | notDirectory
  | isDirectory
  | invalidArgument
  | nameTooLong
  deriving DecidableEq, Repr

namespace Errno

def number : Errno → Nat
  | noEntry => 2
  | busy => 16
  | exists_ => 17
  | notDirectory => 20
  | isDirectory => 21
  | invalidArgument => 22
  | nameTooLong => 36

def text : Errno → String
  | noEntry => "No such file or directory"
  | busy => "Device or resource busy"
  | exists_ => "File exists"
  | notDirectory => "Not a directory"
  | isDirectory => "Is a directory"
  | invalidArgument => "Invalid argument"
  | nameTooLong => "File name too long"

end Errno

inductive FileFault
  /-- The system refused; the path is the one that was asked for. -/
  | system (code : Errno) (path : Option String)
  /-- A path or a value holds a null character, which the system cannot take. -/
  | nullCharacter
  /-- A path or a content has no encoding. -/
  | notEncodable (fault : Text.EncodeFault)
  | notText (fault : Text.Utf8.Fault)
  /-- A content is nested too far to be read. -/
  | tooDeep (o : Overflow)
  /-- A content cannot be written. -/
  | unwritable (f : Json.Fault)
  /-- A path whose last part names no file. -/
  | unnamed (path : Path)
  deriving DecidableEq, Repr

def FileFault.message : FileFault → String
  | system code none => s!"[Errno {code.number}] {code.text}"
  | system code (some path) => s!"[Errno {code.number}] {code.text}: " ++ Text.quoted path
  | nullCharacter => "embedded null byte"
  | notEncodable fault => fault.message
  | notText fault => fault.message
  | tooDeep o => o.message
  | unwritable f => f.message
  | unnamed path => s!"PosixPath({Text.quoted path.text}) has an empty name"

/-- What keeps the system from taking a text as a name: it has no encoding, or holds a null. -/
def FileFault.ofName? (s : String) : Option FileFault :=
  match Text.EncodeFault.findInName? 0 (Text.codes s.toList) with
  | some f => some (.notEncodable f)
  | none => if s.toList.contains '\x00' then some .nullCharacter else none

/-- Faults that the system reports, as opposed to bad values. -/
def FileFault.isSystem : FileFault → Bool
  | system _ _ => true
  | _ => false

end CommandShell
