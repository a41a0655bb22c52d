import CommandShell.Files.Disk
import CommandShell.Json.Reader
import CommandShell.Json.Writer
import CommandShell.Text.Line

/-!
Values kept under keys, in memory and, where a file is named, in that file too: after every change
the whole map is written to a sibling file, which then takes the place of the old one. A save that
the system refuses is passed over.
-/

namespace CommandShell

structure Store where
  entries : OrderedMap String Json
  file : Option Path

namespace Store

/-- The text that a map is saved as. -/
def serialize (entries : OrderedMap String Json) : Except Json.Fault String :=
  Json.write .indented (.obj entries.entries)

/-- Reads the entries of a saved map. What cannot be read, or is no object, has none; only what is
nested too far is a fault. -/
def load (bound : Json.Bound) (d : Disk) (p : Path) :
    Except FileFault (OrderedMap String Json) :=
  match d.readText p with
  | .error _ => .ok OrderedMap.empty
  | .ok text =>
      match Json.read bound (Text.unifyNewlines text) with
      | .ok (.obj fields) => .ok (OrderedMap.ofList fields)
      | .error (.tooDeep o) => .error (.tooDeep o)
      | _ => .ok OrderedMap.empty

/-- The levels between the caller that opens a store and the reading of its file. -/
def openingLevels : Nat := 3

/-- Opens the store that a file backs, or one in memory only. -/
def open_ (r : Room) (d : Disk) (file : Option Path) : Except FileFault Store :=
  match file with
  | none => .ok ⟨OrderedMap.empty, none⟩
  | some p =>
      match d.exists? p with
      | .error e => .error e
      | .ok false => .ok ⟨OrderedMap.empty, some p⟩
      | .ok true =>
          match load (.ofRoom (r.above openingLevels)) d p with
          | .error e => .error e
          | .ok entries => .ok ⟨entries, some p⟩

/-- The sibling that is written first. -/
def temporary (p : Path) : Path :=
  ⟨p.root, p.parts.dropLast ++ [p.name ++ ".tmp"]⟩

/-- The steps of a save, up to the first that fails. -/
def writeFile (d : Disk) (p : Path) (text : String) : Except FileFault Unit × Disk :=
  match d.makeDirectories true p.parent with
  | (.error e, d) => (.error e, d)
  | (.ok (), d) =>
      if p.name = "" then (.error (.unnamed p), d)
      else
        match d.writeText (temporary p) false [text] with
        | (.error e, d) => (.error e, d)
        | (.ok (), d) =>
            match d.rename (temporary p) p with
            | .error e => (.error e, d)
            | .ok d => (.ok (), d)

/-- Writes a map into a file. Nothing is done for one that has no text. -/
def writeEntries (d : Disk) (p : Path) (entries : OrderedMap String Json) :
    Except FileFault Unit × Disk :=
  match serialize entries with
  | .error f => (.error (.unwritable f), d)
  | .ok text => writeFile d p text

/-- Only faults of the system are passed over. -/
def save (st : Store) (d : Disk) : Except FileFault Unit × Disk :=
  match st.file with
  | none => (.ok (), d)
  | some p =>
      match writeEntries d p st.entries with
      | (.error e, d) => (if e.isSystem then .ok () else .error e, d)
      | (.ok (), d) => (.ok (), d)

def get? (st : Store) (k : String) : Option Json :=
  st.entries.get? k

def contains (st : Store) (k : String) : Bool :=
  st.entries.contains k

def size (st : Store) : Nat :=
  st.entries.size

/-- Replaces the entries and saves them. -/
def update (st : Store) (d : Disk) (entries : OrderedMap String Json) :
    Except FileFault Unit × Store × Disk :=
  let st := { st with entries }
  let (r, d) := st.save d
  (r, st, d)

def put (st : Store) (d : Disk) (k : String) (v : Json) : Except FileFault Unit × Store × Disk :=
  st.update d (st.entries.insert k v)

/-- Says whether the key was there; nothing is saved if it was not. -/
def remove (st : Store) (d : Disk) (k : String) : Except FileFault Bool × Store × Disk :=
  if st.contains k then
    match st.update d (st.entries.erase k) with
    | (.error e, st, d) => (.error e, st, d)
    | (.ok (), st, d) => (.ok true, st, d)
  else (.ok false, st, d)

def clear (st : Store) (d : Disk) : Except FileFault Unit × Store × Disk :=
  st.update d OrderedMap.empty

end Store

end CommandShell
