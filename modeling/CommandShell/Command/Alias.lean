import CommandShell.Command.Result
import CommandShell.Json.Display
import CommandShell.OrderedMap
import CommandShell.Syntax.Token
import CommandShell.Text.Lower
import CommandShell.Text.Order

/-!
Aliases: names that stand for a command with leading arguments. They are kept among the values of
a store, under keys of their own.
-/

namespace CommandShell

inductive AliasFault
  | emptyName
  | systemName (name : String)
  deriving DecidableEq, Repr

def AliasFault.message : AliasFault → String
  | emptyName => "Alias name cannot be empty"
  | systemName name => "Cannot create an alias with a system command name: " ++ name

namespace Alias

/-- Names that no alias may take, whatever commands there are. -/
def reserved : List String :=
  ["alias", "cache", "calc", "cd", "cls", "clear", "env", "exit", "help", "dir", "ls", "mkdir",
   "touch", "open", "print", "echo", "read", "rm", "remove", "delete", "del", "script", "var",
   "write", "ask", "q"]

def isReserved (name : String) : Bool :=
  reserved.contains (Text.lower name)

def keyStart : String := "alias_"

def key (name : String) : String :=
  keyStart ++ name

/-- The name of the alias that a key holds. -/
def nameOf? (k : String) : Option String :=
  if keyStart.toList.isPrefixOf k.toList then
    some (String.ofList (k.toList.drop keyStart.length))
  else none

abbrev Entries := OrderedMap String Json

def isAlias (entries : Entries) (name : String) : Bool :=
  entries.contains (key name)

/-- The text of an alias; a null stands for none. -/
def text? (entries : Entries) (name : String) : Except Json.Fault (Option String) :=
  match entries.get? (key name) with
  | none | some .null => .ok none
  | some v => v.display.map some

/-- What is stored for aliases, in the order of the store. -/
def stored (entries : Entries) : List (String × Json) :=
  entries.entries.filterMap fun (k, v) => (nameOf? k).map (·, v)

/-- All aliases with their texts. -/
def all (entries : Entries) : Except Json.Fault (List (String × String)) :=
  Json.displayEach (stored entries)

/-- The names of all aliases, sorted. -/
def names (entries : Entries) : Except Json.Fault (List String) :=
  (all entries).map fun ts => Text.sort (ts.map Prod.fst)

/-- Whether an alias may be created under a name. -/
def check (isCommand : String → Bool) (name : String) : Except AliasFault Unit :=
  if name = "" then .error .emptyName
  else if isReserved name || isCommand name then .error (.systemName name)
  else .ok ()

/-- The words that an alias stands for. -/
def wordsOf (entries : Entries) (name : String) : Except Json.Fault (List String) :=
  match text? entries name with
  | .error f => .error f
  | .ok none => .ok []
  | .ok (some text) => .ok (Syntax.tokenize text)

/-- What a call stands for, and whether there is more to follow from there. An alias that stands
for itself ends the walk, and one without words stands for its own name. -/
def step (entries : Entries) (i : Invocation) : Except Json.Fault (Invocation × Bool) :=
  if isAlias entries i.name then
    match wordsOf entries i.name with
    | .error f => .error f
    | .ok [] => .ok (i, false)
    | .ok (head :: own) => .ok (⟨head, own ++ i.args⟩, head ≠ i.name ∧ isAlias entries head)
  else .ok (i, false)

end Alias

end CommandShell
