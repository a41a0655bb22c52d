import CommandShell.Command.Registry

/-! The command that describes the others. -/

namespace CommandShell.Builtin

namespace Help

/-- The other names of a command, after the text before them. -/
def aliasLine (before : String) (c : Card) : List String :=
  if c.aliases.isEmpty then [] else [before ++ Complaint.list (Text.sort c.aliases)]

def details (c : Card) : List String :=
  ["Help for command '" ++ c.name ++ "':", "", "Description: " ++ c.description, "",
    "Usage: " ++ c.usage]
    ++ if c.aliases.isEmpty then [] else "" :: aliasLine "Aliases: " c

def entry (c : Card) : List String :=
  (c.name ++ " - " ++ c.description) :: aliasLine "   Aliases: " c

/-- All commands, and the aliases of the user if there are any. -/
def overview (cards : List Card) (userAliases : List String) : List String :=
  "Available commands:" :: "" :: cards.flatMap entry
    ++ (if userAliases.isEmpty then [] else ["", "User aliases: " ++ Complaint.list userAliases])
    ++ ["", "Enter 'help <command>' for more detailed information about a specific command."]

def run (d : Directory) (args : List String) (s : Session) : Outcome :=
  let name := args.headD ""
  if name = "" then
    match Alias.names s.store.entries with
    | .error f => s.fail (.json f)
    | .ok names => s.answer (.lines (overview d.cards names))
  else
    match d.find? name with
    | none => s.object (.commandNotFound (Text.lower name))
    | some c => s.answer (.lines (details c))

/-- How the aliases of the user are listed. -/
def climb (args : List String) (s : Session) : Climb :=
  if args.headD "" = "" then .entry :: Alias.listingClimb s.store.entries else []

end Help

def help : Command where
  card := ⟨"help", "Displays help information about available commands", "help [command]", []⟩
  handler d args := .finish (Help.run d args)
  strain := .ofClimb Help.climb

end CommandShell.Builtin
