import CommandShell.Chat.Client
import CommandShell.Command.Fault
import CommandShell.Files.Resolve
import CommandShell.Store
import CommandShell.Syntax.Reference

/-! What the commands of a session see and change. -/

namespace CommandShell

structure Session where
  vars : OrderedMap String String
  store : Store
  cwd : Path
  exitRequested : Bool
  /-- How often the screen was cleared. -/
  clears : Nat
  /-- The calls that recording commands have seen. -/
  calls : List (String × List String)
  /-- The settings of the chat client, once they have been read. -/
  client : Option Chat.Config
  disk : Disk
  environment : OrderedMap String String
  /-- What the system knows of accounts. -/
  accounts : Accounts
  exchange : Chat.Exchange Float

/-- What a command hands back, or why it failed, and the session after it. -/
abbrev Outcome := Except Fault Output × Session

namespace Session

def answer (s : Session) (o : Output) : Outcome :=
  (.ok o, s)

def fail (s : Session) (f : Fault) : Outcome :=
  (.error f, s)

def object (s : Session) (c : Complaint) : Outcome :=
  s.fail (.complaint c)

def expandVariables (s : Session) (text : String) : String :=
  Syntax.expandReferences s.vars.get? text

/-- Sets a variable, or takes it away if there is no value. -/
def setVariable (s : Session) (name : String) (value : Option String) :
    Except Fault Unit × Session :=
  if Text.isBlankText name then (.error .blankVariable, s)
  else
    match value with
    | some v => (.ok (), { s with vars := s.vars.insert name v })
    | none => (.ok (), { s with vars := s.vars.erase name })

/-- Takes a variable away and says whether it was there. -/
def unsetVariable (s : Session) (name : String) : Bool × Session :=
  (s.vars.contains name, { s with vars := s.vars.erase name })

/-- Takes all variables away and says how many there were. -/
def clearVariables (s : Session) : Nat × Session :=
  (s.vars.size, { s with vars := OrderedMap.empty })

/-- The key of a value, without which nothing can be stored or found. -/
def needKey : Option String → Except Fault String
  | none => .error .keyMissing
  | some k => .ok k

/-- Carries an operation on the store over to the session. -/
def onStore {α : Type} (s : Session)
    (operation : Store → Disk → Except FileFault α × Store × Disk) : Except Fault α × Session :=
  match operation s.store s.disk with
  | (.ok a, store, disk) => (.ok a, { s with store, disk })
  | (.error f, store, disk) => (.error (.file f), { s with store, disk })

def put (s : Session) (k : String) (v : Json) : Except Fault Unit × Session :=
  s.onStore fun store disk => store.put disk k v

def remove (s : Session) (k : String) : Except Fault Bool × Session :=
  s.onStore fun store disk => store.remove disk k

def clearStore (s : Session) : Except Fault Unit × Session :=
  s.onStore fun store disk => store.clear disk

/-- Creates an alias, or gives it a new text. -/
def createAlias (s : Session) (isCommand : String → Bool) (name text : String) :
    Except Fault Unit × Session :=
  match Alias.check isCommand name with
  | .error f => (.error (.naming f), s)
  | .ok () => s.put (Alias.key name) (.str text)

def removeAlias (s : Session) (name : String) : Except Fault Bool × Session :=
  s.remove (Alias.key name)

/-- Removes keys one after the other, up to the first that cannot be saved. -/
def removeAll (s : Session) : List String → Except Fault Unit × Session
  | [] => (.ok (), s)
  | k :: rest =>
      match s.remove k with
      | (.error f, s) => (.error f, s)
      | (.ok _, s) => s.removeAll rest

/-- Removes all aliases and says how many there were. -/
def clearAliases (s : Session) : Except Fault Nat × Session :=
  match Alias.all s.store.entries with
  | .error f => (.error (.json f), s)
  | .ok all =>
      let names := all.map Prod.fst
      match s.removeAll (names.map Alias.key) with
      | (.error f, s) => (.error f, s)
      | (.ok (), s) => (.ok names.length, s)

/-- The accounts with the home directory that the environment sets, if it sets any. -/
def homes (s : Session) : Accounts :=
  { s.accounts with own := (s.environment.get? "HOME").or s.accounts.own }

/-- The path that an argument names. -/
def resolve (s : Session) (raw : String) : Except FileFault Path :=
  Path.resolve s.homes s.cwd raw

/-- Acts on the path that an argument names. -/
def withPath (s : Session) (raw : String) (act : Path → Outcome) : Outcome :=
  match s.resolve raw with
  | .error f => s.fail (.file f)
  | .ok p => act p

end Session

end CommandShell
