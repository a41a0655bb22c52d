import CommandShell.Files.Fault
import CommandShell.OrderedMap

/-!
The files that a session works on: a tree of directories and files, kept as a map from places to
nodes, and the operations on it with the ways in which they fail.
-/

namespace CommandShell

/-- The names that lead from the root to a node. -/
abbrev Place := List String

namespace Place

/-- The names that lead from one place to another under it. -/
def from? : Place → Place → Option Place
  | [], there => some there
  | _ :: _, [] => none
  | a :: here, b :: there => if a = b then from? here there else none

theorem from?_eq_nil {here there : Place} : from? here there = some [] ↔ there = here := by
  induction here generalizing there with
  | nil => simp [from?]
  | cons a here ih =>
      cases there with
      | nil => simp [from?]
      | cons b there =>
          by_cases h : a = b
          · simp [from?, h, ih]
          · simp [from?, h, Ne.symm h]

/-- A way in two parts. -/
theorem from?_append (here between there : Place) :
    from? (here ++ between) there = (from? here there).bind (from? between) := by
  induction here generalizing there with
  | nil => rfl
  | cons a here ih =>
      cases there with
      | nil => rfl
      | cons b there =>
          by_cases h : a = b
          · simpa [from?, h] using ih there
          · simp [from?, h]

end Place

inductive Node
  | directory
  | file (content : ByteArray) (executable : Bool)

def Node.isDirectory : Node → Bool
  | directory => true
  | file _ _ => false

def Node.isFile : Node → Bool
  | directory => false
  | file _ _ => true

structure Disk where
  nodes : OrderedMap Place Node
  /-- Where relative paths begin. -/
  start : Place
  /-- How many directories from the start upwards have been deleted. They stay empty even if others
  are made in their places. -/
  lost : Nat

namespace Disk

/-- The root is always a directory. -/
def node? (d : Disk) (place : Place) : Option Node :=
  if place = [] then some .directory else d.nodes.get? place

def maxName : Nat := 255

def maxPath : Nat := 4095

/-! ## Walks

A walk keeps the nodes that are still ahead of it, by the names that lead to them from where it is,
so that each step has fewer to look at. -/

/-- The nodes at a place and under it. -/
def ahead (d : Disk) (here : Place) : List (Place × Node) :=
  d.nodes.entries.filterMap fun e => (Place.from? here e.1).map (·, e.2)

/-- The nodes that are still ahead after a step. -/
def stepInto (name : String) (nodes : List (Place × Node)) : List (Place × Node) :=
  nodes.filterMap fun e => (Place.from? [name] e.1).map (·, e.2)

/-- The node where a walk is. -/
def nodeHere (here : Place) (nodes : List (Place × Node)) : Option Node :=
  if here = [] then some .directory else (nodes.find? fun e => e.1 = []).map Prod.snd

def walkOver (d : Disk) (here : Place) (nodes : List (Place × Node)) :
    List String → Except Errno Place
  | [] => .ok here
  | name :: rest =>
      match nodeHere here nodes with
      | none => .error .noEntry
      | some (.file _ _) => .error .notDirectory
      | some .directory =>
          if name = ".." then d.walkOver here.dropLast (d.ahead here.dropLast) rest
          else if Text.nameSize name > maxName then .error .nameTooLong
          else d.walkOver (here ++ [name]) (stepInto name nodes) rest

/-- Follows names from a place. All but the last must be directories; the last may be missing. -/
def walk (d : Disk) (here : Place) (names : List String) : Except Errno Place :=
  d.walkOver here (d.ahead here) names

theorem nodeHere_ahead (d : Disk) (here : Place) :
    nodeHere here (d.ahead here) = d.node? here := by
  unfold nodeHere node? OrderedMap.get? ahead
  split
  · rfl
  · induction d.nodes.entries with
    | nil => rfl
    | cons e rest ih =>
        by_cases h : e.1 = here
        · have hs : Place.from? here e.1 = some [] := Place.from?_eq_nil.mpr h
          rw [List.filterMap_cons_some (b := ([], e.2)) (by rw [hs]; rfl),
            List.find?_cons_of_pos (by simp), List.find?_cons_of_pos (by simpa using h)]
          rfl
        · rw [List.find?_cons_of_neg (by simpa using h), ← ih]
          cases hk : Place.from? here e.1 with
          | none => simp [hk]
          | some k =>
              have hk' : k ≠ [] := fun hn => h (Place.from?_eq_nil.mp (hn ▸ hk))
              simp [hk, hk']

theorem stepInto_ahead (d : Disk) (here : Place) (name : String) :
    stepInto name (d.ahead here) = d.ahead (here ++ [name]) := by
  unfold stepInto ahead
  rw [List.filterMap_filterMap]
  congr 1
  funext e
  rw [Place.from?_append]
  cases Place.from? here e.1 <;> rfl

theorem walk_cons (d : Disk) (here : Place) (name : String) (rest : List String) :
    d.walk here (name :: rest)
      = match d.node? here with
        | none => .error .noEntry
        | some (.file _ _) => .error .notDirectory
        | some .directory =>
            if name = ".." then d.walk here.dropLast rest
            else if Text.nameSize name > maxName then .error .nameTooLong
            else d.walk (here ++ [name]) rest := by
  unfold walk
  rw [walkOver, nodeHere_ahead, stepInto_ahead]

/-- Follows names from a directory that has been deleted with some of those above it. The deleted
ones have no places any more, and nothing in them. -/
def walkLost (d : Disk) : Nat → Place → List String → Except Errno (Option Place)
  | 0, here, names => (d.walk here names).map some
  | _ + 1, _, [] => .ok none
  | lost + 1, here, name :: rest =>
      if name = ".." then d.walkLost lost here.dropLast rest else .error .noEntry

/-- The place that a path names, or none for a deleted directory. -/
def locate (d : Disk) (p : Path) : Except Errno (Option Place) :=
  if Text.nameSize p.text > maxPath then .error .nameTooLong
  else if p.isAbsolute then (d.walk [] p.parts).map some
  else d.walkLost d.lost d.start p.parts

/-- The node at a place. -/
def nodeAt (d : Disk) : Option Place → Option Node
  | none => some .directory
  | some place => d.node? place

/-- The node that a path names, with its place. -/
def find (d : Disk) (p : Path) : Except Errno (Option Place × Node) :=
  match d.locate p with
  | .error e => .error e
  | .ok place =>
      match d.nodeAt place with
      | none => .error .noEntry
      | some node => .ok (place, node)

/-- Whether a path names a node that passes a test. A missing node is no fault, and neither is a
path that leads through a file. -/
def probe (d : Disk) (test : Node → Bool) (p : Path) : Except FileFault Bool :=
  if (FileFault.ofName? p.text).isSome then .ok false
  else
    match d.find p with
    | .ok (_, node) => .ok (test node)
    | .error .noEntry | .error .notDirectory => .ok false
    | .error e => .error (.system e p.text)

def exists? (d : Disk) (p : Path) : Except FileFault Bool :=
  d.probe (fun _ => true) p

def isDirectory (d : Disk) (p : Path) : Except FileFault Bool :=
  d.probe Node.isDirectory p

def isFile (d : Disk) (p : Path) : Except FileFault Bool :=
  d.probe Node.isFile p

/-- Whether a path names a link, of which a disk holds none. -/
def isLink (d : Disk) (p : Path) : Except FileFault Bool :=
  d.probe (fun _ => false) p

def put (d : Disk) (place : Place) (node : Node) : Disk :=
  { d with nodes := d.nodes.insert place node }

/-- Puts a node at a place, if there is one. -/
def putAt (d : Disk) (place : Option Place) (node : Node) : Disk :=
  (place.map (d.put · node)).getD d

/-- The node that a path names, for an operation that cannot do without it. -/
def need (d : Disk) (p : Path) : Except FileFault (Option Place × Node) :=
  match FileFault.ofName? p.text with
  | some f => .error f
  | none =>
      match d.find p with
      | .ok r => .ok r
      | .error e => .error (.system e p.text)

def makeDirectory (d : Disk) (p : Path) : Except FileFault Disk :=
  match FileFault.ofName? p.text with
  | some f => .error f
  | none =>
      match d.locate p with
      | .error e => .error (.system e p.text)
      | .ok place =>
          match d.nodeAt place with
          | some _ => .error (.system .exists_ p.text)
          | none => .ok (d.putAt place .directory)

/-- Settles the refusal of a directory that may exist already. -/
def tolerate (d : Disk) (existing : Bool) (p : Path) (fault : FileFault) :
    Except FileFault Unit :=
  if existing ∧ fault.isSystem then
    match d.isDirectory p with
    | .ok true => .ok ()
    | .ok false => .error fault
    | .error e => .error e
  else .error fault

/-- Makes a directory, given by the parts of its path from the last to the first, and the parents
that it lacks. What was made before a fault stays. -/
def makePath (d : Disk) (root : Path.Root) (existing : Bool) :
    List String → Except FileFault Unit × Disk
  | [] =>
      let p : Path := ⟨root, []⟩
      match d.makeDirectory p with
      | .ok d' => (.ok (), d')
      | .error (.system .noEntry t) => (.error (.system .noEntry t), d)
      | .error e => (d.tolerate existing p e, d)
  | last :: before =>
      let p : Path := ⟨root, (last :: before).reverse⟩
      match d.makeDirectory p with
      | .ok d' => (.ok (), d')
      | .error (.system .noEntry _) =>
          match d.makePath root true before with
          | (.error e, d') => (.error e, d')
          | (.ok (), d') =>
              match d'.makeDirectory p with
              | .ok d'' => (.ok (), d'')
              | .error e => (d'.tolerate existing p e, d')
      | .error e => (d.tolerate existing p e, d)

/-- Makes a directory with its parents; `existing` says whether it may be there already. -/
def makeDirectories (d : Disk) (existing : Bool) (p : Path) : Except FileFault Unit × Disk :=
  d.makePath p.root existing p.parts.reverse

def readBytes (d : Disk) (p : Path) : Except FileFault ByteArray :=
  match d.need p with
  | .error e => .error e
  | .ok (_, .directory) => .error (.system .isDirectory p.text)
  | .ok (_, .file content _) => .ok content

def readText (d : Disk) (p : Path) : Except FileFault String :=
  match d.readBytes p with
  | .error e => .error e
  | .ok bytes =>
      match Text.Utf8.decode bytes with
      | .error f => .error (.notText f)
      | .ok s => .ok s

/-- The bytes of some texts up to the first that has no encoding, and its fault. -/
def encode : List String → ByteArray × Option Text.EncodeFault
  | [] => (ByteArray.empty, none)
  | s :: rest =>
      match Text.EncodeFault.find? s.toList with
      | some f => (ByteArray.empty, some f)
      | none =>
          let (bytes, fault) := encode rest
          (Text.bytes s ++ bytes, fault)

/-- Makes a file, or empties one that is not appended to, and gives its place, its bytes and whether
it can be executed. Its directory must be there. -/
def openFile (d : Disk) (p : Path) (append : Bool) :
    Except FileFault (Option Place × ByteArray × Bool) :=
  match FileFault.ofName? p.text with
  | some f => .error f
  | none =>
      match d.locate p with
      | .error e => .error (.system e p.text)
      | .ok place =>
          match d.nodeAt place with
          | some .directory => .error (.system .isDirectory p.text)
          | none => .ok (place, ByteArray.empty, false)
          | some (.file old executable) =>
              .ok (place, if append then old else ByteArray.empty, executable)

/-- Writes texts into a file one after the other. Those before one without an encoding stay. -/
def writeText (d : Disk) (p : Path) (append : Bool) (texts : List String) :
    Except FileFault Unit × Disk :=
  match d.openFile p append with
  | .error f => (.error f, d)
  | .ok (place, old, executable) =>
      let (bytes, fault) := encode texts
      let d := d.putAt place (.file (old ++ bytes) executable)
      match fault with
      | some f => (.error (.notEncodable f), d)
      | none => (.ok (), d)

/-- Takes away a place and everything below it. -/
def drop (d : Disk) (place : Place) : Disk where
  nodes := d.nodes.filterKeys fun k => !place.isPrefixOf k
  start := d.start
  lost :=
    if place.isPrefixOf d.start then max d.lost (d.start.length + 1 - place.length) else d.lost

/-- Deletes a directory with everything below it. The root itself stays, and so does a directory that
has been deleted before. -/
def removeTree (d : Disk) (p : Path) : Except FileFault Unit × Disk :=
  match d.need p with
  | .error e => (.error e, d)
  | .ok (none, _) => (.error (.system .invalidArgument p.text), d)
  | .ok (some place, _) =>
      if place = [] then (.error (.system .busy p.text), d.drop []) else (.ok (), d.drop place)

/-- Deletes a file. -/
def unlink (d : Disk) (p : Path) : Except FileFault Unit × Disk :=
  match d.need p with
  | .error e => (.error e, d)
  | .ok (some place, .file _ _) => (.ok (), d.drop place)
  | .ok _ => (.error (.system .isDirectory p.text), d)

/-- Deletes a directory that no link leads to as a tree, and anything else as a file. -/
def delete (d : Disk) (p : Path) : Except FileFault Unit × Disk :=
  match d.isDirectory p, d.isLink p with
  | .error e, _ | .ok true, .error e => (.error e, d)
  | .ok true, .ok false => d.removeTree p
  | .ok true, .ok true | .ok false, _ => d.unlink p

/-- Moves a file to a place that may be taken by another file. -/
def rename (d : Disk) (source target : Path) : Except FileFault Disk :=
  match d.need source with
  | .error e => .error e
  | .ok (none, _) => .error (.system .busy source.text)
  | .ok (some from_, node) =>
      match d.locate target with
      | .error e => .error (.system e source.text)
      | .ok there =>
          if target.parts = [] ∨ target.name = ".." then .error (.system .busy source.text)
          else
            match d.nodeAt there with
            | some .directory => .error (.system .isDirectory source.text)
            | _ => .ok (({ d with nodes := d.nodes.erase from_ }).putAt there node)

/-- The names in a directory, each with its node. -/
def children (d : Disk) (place : Place) : List (String × Node) :=
  d.nodes.entries.filterMap fun (k, node) =>
    match k.getLast? with
    | some name => if k.dropLast = place then some (name, node) else none
    | none => none

/-- Sets up a node together with the directories that lead to it. -/
def install (d : Disk) (place : Place) (node : Node) : Disk :=
  let leading := (List.range place.length).map fun n => place.take n
  let d := leading.foldl (fun d k => if (d.node? k).isSome then d else d.put k .directory) d
  if place = [] then d else d.put place node

def empty : Disk :=
  ⟨OrderedMap.empty, [], 0⟩

end Disk

end CommandShell
