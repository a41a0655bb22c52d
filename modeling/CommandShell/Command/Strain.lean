import CommandShell.Command.Session

/-!
What the work of commands asks of the stack of the host. For paths, directories and values there are
climbs. Operations on the store change it before they save it; for them there is the overrun, which
tells where some room is used up, if it is, and what session is left behind. The operations
themselves know nothing of this.
-/

namespace CommandShell

/-- Where room is used up, and the session then. -/
abbrev Overrun := Overflow × Session

/-- A climb that leaves the session as it is. -/
def Climb.overrun? (c : Climb) (room : Nat) (s : Session) : Option Overrun :=
  (c.overflow? room).map (·, s)

namespace Path

/-- How a path is resolved. A tilde is looked into first, and so is the name of an account. -/
def resolvingClimb (raw : String) : Climb :=
  match raw.toList with
  | ['~'] | '~' :: '/' :: _ => [.entry, .entry, .call, .entry, .entry, .entry, .call]
  | '~' :: _ => [.entry, .entry, .call, .quotation, .call, .entry, .call]
  | _ => [.entry, .entry, .call, .entry, .call, .entry, .call]

/-- How a command resolves a path. -/
def commandClimb (raw : String) : Climb :=
  .entry :: resolvingClimb raw

end Path

namespace Disk

/-- How many directories are missing above one, given by the parts of its path from the last to the
first. -/
def missingAbove (d : Disk) (root : Path.Root) : List String → Nat
  | [] => 0
  | last :: before =>
      match d.makeDirectory ⟨root, (last :: before).reverse⟩ with
      | .error (.system .noEntry _) => d.missingAbove root before + 1
      | _ => 0

/-- How a directory is made, each missing parent one level above its child. -/
def makingClimb (d : Disk) (p : Path) : Climb :=
  [.entry, .entry, .call, .entry, .entry, .call]
    ++ List.replicate (d.missingAbove p.root p.parts.reverse) .call

/-- How far below a place there is anything. -/
def heightAt (d : Disk) (place : Place) : Nat :=
  (d.nodes.entries.filterMap fun (k, _) =>
    if place.isPrefixOf k then some (k.length - place.length) else none).foldl max 0

/-- How what a path names is deleted, each directory one level above the one it is in. -/
def deletingClimb (d : Disk) (p : Path) : Climb :=
  match d.find p with
  | .ok (some place, .directory) =>
      [.entry, .entry, .call, .text, .entry, .text, .entry]
        ++ List.replicate (d.heightAt place - 3) .entry
  | _ => []

end Disk

namespace Json

/-- How a value is displayed, each value one level above the list or the object it is in. -/
def displayingClimb (v : Json) : Climb :=
  match v with
  | .str _ => []
  | v => .text :: List.replicate v.height .quotation

end Json

namespace Store

/-- How a file is replaced by way of its sibling. -/
def replacingClimb : Climb :=
  [.entry, .entry, .entry, .call, .entry, .entry, .call, .call]

/-- How the store is locked. -/
def lockingClimb : Climb :=
  [.entry, .call]

/-- How a key is looked at, which comes before the store is locked. -/
def openingClimb : Climb :=
  [.entry, .entry]

/-- How changed entries are saved where a file is named. -/
def savingClimb (st : Store) (entries : OrderedMap String Json) : Climb :=
  if st.file.isNone then []
  else
    let writing :=
      [.entry, .call, .entry, .entry]
        ++ List.replicate (Json.obj entries.entries).writingLevels .call
    .entry :: .entry :: Climb.andThen writing replacingClimb

end Store

namespace Alias

/-- How a name is checked. One that is reserved is not looked up among the commands. -/
def checkingClimb (name : String) : Climb :=
  if name = "" then [.entry, .call]
  else if isReserved name then [.entry, .entry, .call]
  else [.entry, .entry, .call, .call]

/-- How the text of an alias is looked up. -/
def readingClimb (entries : Entries) (name : String) : Climb :=
  .entry :: Climb.andThen Store.openingClimb
    (((entries.get? (key name)).map Json.displayingClimb).getD [])

/-- How all aliases are gathered with their texts. -/
def listingClimb (entries : Entries) : Climb :=
  .entry :: Climb.andThen Store.lockingClimb
    (.entry ::
      (entries.entries.filter fun (k, _) => (nameOf? k).isSome).foldl
        (fun c (_, v) => Climb.andThen c v.displayingClimb) [])

end Alias

namespace Result

/-- How a result is made. -/
def makingClimb : Climb :=
  [.entry, .call, .entry, .call]

end Result

namespace Output

/-- How a result is made of what a command hands back, as seen from the command. What kind of value
it is comes first, and the entries of a list are put together from one level further up. -/
def resultClimb : Output → Climb
  | .result _ => []
  | .value .null => Result.makingClimb
  | .value (.arr items) =>
      Climb.andThen
        (.kindTest :: .entry :: items.foldl (fun c v => Climb.andThen c v.displayingClimb) [])
        Result.makingClimb
  | .value v => Climb.andThen [.kindTest] (Climb.andThen v.displayingClimb Result.makingClimb)

end Output

namespace Session

/-- A change of the store is made before it is saved. -/
def changeOverrun? (s : Session) (room : Nat) (entries : OrderedMap String Json) :
    Option Overrun :=
  (s.store.savingClimb entries).overrun? room { s with store := { s.store with entries } }

def putOverrun? (s : Session) (room : Nat) (k : String) (v : Json) : Option Overrun :=
  (Store.openingClimb.overrun? room s).orElse fun _ =>
    s.changeOverrun? room (s.store.entries.insert k v)

def removeOverrun? (s : Session) (room : Nat) (k : String) : Option Overrun :=
  (Store.openingClimb.overrun? room s).orElse fun _ =>
    if s.store.contains k then s.changeOverrun? room (s.store.entries.erase k) else none

def clearOverrun? (s : Session) (room : Nat) : Option Overrun :=
  (Store.lockingClimb.overrun? room s).orElse fun _ => s.changeOverrun? room OrderedMap.empty

def createAliasOverrun? (s : Session) (room : Nat) (isCommand : String → Bool)
    (name text : String) : Option Overrun :=
  ((Alias.checkingClimb name).overrun? room s).orElse fun _ =>
    match Alias.check isCommand name with
    | .error _ => none
    | .ok () => s.putOverrun? (room - 1) (Alias.key name) (.str text)

def removeAliasOverrun? (s : Session) (room : Nat) (name : String) : Option Overrun :=
  s.removeOverrun? (room - 1) (Alias.key name)

/-- The first removal climbs highest. -/
def clearAliasesOverrun? (s : Session) (room : Nat) : Option Overrun :=
  (Climb.overrun? (.entry :: Alias.listingClimb s.store.entries) room s).orElse fun _ =>
    match Alias.all s.store.entries with
    | .ok ((name, _) :: _) => s.removeAliasOverrun? room name
    | _ => none

/-! ## Operations within some room -/

/-- What an operation does, unless it overruns the stack. -/
def unlessOverrun {α : Type} (overrun : Option Overrun) (act : Except Fault α × Session) :
    Except Fault α × Session :=
  match overrun with
  | some (o, s) => (.error (.overflow o), s)
  | none => act

def putWithin (s : Session) (room : Nat) (k : String) (v : Json) : Except Fault Unit × Session :=
  unlessOverrun (s.putOverrun? room k v) (s.put k v)

def removeWithin (s : Session) (room : Nat) (k : String) : Except Fault Bool × Session :=
  unlessOverrun (s.removeOverrun? room k) (s.remove k)

def clearStoreWithin (s : Session) (room : Nat) : Except Fault Unit × Session :=
  unlessOverrun (s.clearOverrun? room) s.clearStore

def createAliasWithin (s : Session) (room : Nat) (isCommand : String → Bool)
    (name text : String) : Except Fault Unit × Session :=
  unlessOverrun (s.createAliasOverrun? room isCommand name text)
    (s.createAlias isCommand name text)

def removeAliasWithin (s : Session) (room : Nat) (name : String) :
    Except Fault Bool × Session :=
  unlessOverrun (s.removeAliasOverrun? room name) (s.removeAlias name)

def clearAliasesWithin (s : Session) (room : Nat) : Except Fault Nat × Session :=
  unlessOverrun (s.clearAliasesOverrun? room) s.clearAliases

/-- The text of an alias. -/
def aliasWithin (s : Session) (room : Nat) (name : String) :
    Except Fault (Option String) × Session :=
  unlessOverrun ((Alias.readingClimb s.store.entries name).overrun? room s)
    ((Alias.text? s.store.entries name).mapError .json, s)

/-- All aliases with their texts. -/
def aliasesWithin (s : Session) (room : Nat) : Except Fault (List (String × String)) × Session :=
  unlessOverrun ((Alias.listingClimb s.store.entries).overrun? room s)
    ((Alias.all s.store.entries).mapError .json, s)

/-- The names of all aliases. -/
def aliasNamesWithin (s : Session) (room : Nat) : Except Fault (List String) × Session :=
  unlessOverrun (Climb.overrun? (.entry :: Alias.listingClimb s.store.entries) room s)
    ((Alias.names s.store.entries).mapError .json, s)

end Session

end CommandShell
