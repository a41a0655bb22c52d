import CommandShell.Command.Registry

/-! The commands for what is kept in the store: aliases, and any other values. -/

namespace CommandShell.Builtin

namespace Aliases

def usage : String :=
  Text.joinLines
    ["alias <alias> <command> - Create an alias for a command",
      "alias list - Show all created aliases", "alias remove <alias> - Remove an alias",
      "alias clear - Remove all aliases"]

def list (s : Session) : Outcome :=
  match Alias.all s.store.entries with
  | .error f => s.fail (.json f)
  | .ok [] => s.answer (.text "No aliases created")
  | .ok all =>
      s.answer (.lines (s!"Created aliases ({all.length}):" ::
        (Text.sortBy Prod.fst all).map fun (name, text) => name ++ " -> " ++ text))

def remove (args : List String) (s : Session) : Outcome :=
  match args with
  | [] => s.object .aliasNameMissing
  | name :: _ =>
      match s.removeAlias name with
      | (.error f, s) => s.fail f
      | (.ok false, s) => s.object (.aliasNotFound name)
      | (.ok true, s) => s.answer (.text ("Alias removed: " ++ name))

def clear (s : Session) : Outcome :=
  match s.clearAliases with
  | (.error f, s) => s.fail f
  | (.ok 0, s) => s.answer (.text "No created aliases")
  | (.ok count, s) => s.answer (.text s!"Removed all aliases ({count})")

def create (isCommand : String → Bool) (name : String) (words : List String) (s : Session) :
    Outcome :=
  match words with
  | [] => s.object (.notEnoughArguments "alias <alias> <command>")
  | _ =>
      let text := Text.joinWords words
      match s.createAlias isCommand name text with
      | (.error f, s) => s.fail f
      | (.ok (), s) => s.answer (.text ("Alias created: " ++ name ++ " -> " ++ text))

def run (isCommand : String → Bool) (args : List String) (s : Session) : Outcome :=
  match args with
  | [] => s.object .aliasOperationMissing
  | first :: args =>
      match Text.lower first with
      | "list" => list s
      | "remove" => remove args s
      | "clear" => clear s
      | _ => create isCommand first args s

def overrun? (isCommand : String → Bool) (room : Nat) (args : List String) (s : Session) :
    Option Overrun :=
  match args with
  | [] => none
  | first :: args =>
      match Text.lower first, args with
      | "list", _ =>
          Climb.overrun? (.entry :: Alias.listingClimb s.store.entries) room s
      | "remove", name :: _ => s.removeAliasOverrun? (room - 1) name
      | "remove", [] => none
      | "clear", _ => s.clearAliasesOverrun? (room - 1)
      | _, [] => none
      | _, words => s.createAliasOverrun? room isCommand first (Text.joinWords words)

end Aliases

def shorthand : Command where
  card := ⟨"alias", "Creating and managing command aliases", Aliases.usage, []⟩
  handler d args := .finish (Aliases.run (fun name => (d.find? name).isSome) args)
  strain d := Aliases.overrun? fun name => (d.find? name).isSome

namespace Cache

def operations : List String :=
  ["set", "get", "remove", "clear", "list"]

def usage : String :=
  Text.joinLines
    ["cache set <key> <value> - Save a value to the cache",
      "cache get <key> - Get a value from the cache",
      "cache remove <key> - Remove a value from the cache", "cache clear - Clear the cache",
      "cache list - Show all entries in the cache"]

def assignment (key value : String) : String :=
  key ++ " = " ++ value

def set (args : List String) (s : Session) : Outcome :=
  match args with
  | key :: word :: words =>
      let value := Text.joinWords (word :: words)
      match s.put key (.str value) with
      | (.error f, s) => s.fail f
      | (.ok (), s) => s.answer (.text ("Value saved to cache: " ++ assignment key value))
  | _ => s.object (.notEnoughArguments "cache set <key> <value>")

def get (args : List String) (s : Session) : Outcome :=
  match args with
  | [] => s.object (.notEnoughArguments "cache get <key>")
  | key :: _ =>
      match s.store.get? key with
      | none | some .null => s.object (.keyNotFound key)
      | some value =>
          match value.display with
          | .error f => s.fail (.json f)
          | .ok text => s.answer (.text (assignment key text))

def remove (args : List String) (s : Session) : Outcome :=
  match args with
  | [] => s.object (.notEnoughArguments "cache remove <key>")
  | key :: _ =>
      match s.remove key with
      | (.error f, s) => s.fail f
      | (.ok false, s) => s.object (.keyNotFound key)
      | (.ok true, s) => s.answer (.text ("Key removed from cache: " ++ key))

def clear (s : Session) : Outcome :=
  let size := s.store.size
  match s.clearStore with
  | (.error f, s) => s.fail f
  | (.ok (), s) => s.answer (.text s!"Cache cleared. Entries removed: {size}")

def list (s : Session) : Outcome :=
  match Json.displayEach (Text.sortBy Prod.fst s.store.entries.entries) with
  | .error f => s.fail (.json f)
  | .ok [] => s.answer (.text "Cache is empty")
  | .ok entries =>
      s.answer (.lines (s!"Entries in cache ({entries.length}):" :: entries.map fun (key, text) =>
        assignment key text))

def run (args : List String) (s : Session) : Outcome :=
  match args with
  | [] => s.object (.operationMissing operations)
  | operation :: args =>
      match Text.lower operation with
      | "set" => set args s
      | "get" => get args s
      | "remove" => remove args s
      | "clear" => clear s
      | "list" => list s
      | other => s.object (.unknownOperation other operations)

def overrun? (room : Nat) (args : List String) (s : Session) : Option Overrun :=
  match args with
  | [] => none
  | operation :: args =>
      match Text.lower operation, args with
      | "set", key :: word :: words =>
          s.putOverrun? room key (.str (Text.joinWords (word :: words)))
      | "get", key :: _ =>
          let climb := ((s.store.get? key).map Json.displayingClimb).getD []
          Climb.overrun? (.call :: climb) room s
      | "remove", key :: _ => s.removeOverrun? room key
      | "clear", _ => s.clearOverrun? room
      | "list", _ =>
          let climbs := s.store.entries.values.map Json.displayingClimb
          Climb.overrun? (.entry :: .call :: climbs.foldl Climb.andThen []) room s
      | _, _ => none

end Cache

def cache : Command where
  card :=
    ⟨"cache", "Cache management. Available operations: set, get, remove, clear, list", Cache.usage,
      []⟩
  handler := .ofAction Cache.run
  strain _ := Cache.overrun?

end CommandShell.Builtin
