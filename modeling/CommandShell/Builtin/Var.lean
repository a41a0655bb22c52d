import CommandShell.Command.Command
import CommandShell.Text.Lower
import CommandShell.Text.Order

/-! The command for variables. Their values are expanded once more when they are set. -/

namespace CommandShell.Builtin

namespace Var

def setUsage : String := "var set <name> <value>"

def getUsage : String := "var get <name>"

def usage : String :=
  Text.joinLines
    ["var set <name> <value> - Set a variable value", "var get <name> - Get a variable value",
      "var list - List all variables", "var clear - Clear all variables"]

def operations : List String :=
  ["set", "get", "list", "clear"]

def nameWidth : Nat := 15

def set (args : List String) (s : Session) : Outcome :=
  match args with
  | name :: word :: words =>
      let value := s.expandVariables (Text.joinWords (word :: words))
      match s.setVariable name (some value) with
      | (.error f, s) => s.fail f
      | (.ok (), s) => s.answer (.text ("Variable set: " ++ name ++ " = " ++ value))
  | _ => s.object (.usage setUsage)

def get (args : List String) (s : Session) : Outcome :=
  match args with
  | [] => s.object (.usage getUsage)
  | name :: _ =>
      match s.vars.get? name with
      | none => s.object (.variableNotFound name)
      | some value => s.answer (.text value)

def list (s : Session) : Outcome :=
  if s.vars.isEmpty then s.answer (.text "No variables defined.")
  else
    let entries := Text.sortBy Prod.fst s.vars.entries
    s.answer (.lines ("Variables:" :: "" :: entries.map fun (name, value) =>
      Text.padRight nameWidth name ++ " = " ++ value))

def clear (s : Session) : Outcome :=
  match s.clearVariables with
  | (0, s) => s.answer (.text "No variables to clear.")
  | (count, s) => s.answer (.text s!"Cleared {count} variables.")

def run (args : List String) (s : Session) : Outcome :=
  match args with
  | [] => s.answer (.result (.failure (Complaint.usage usage).message))
  | operation :: args =>
      match Text.lower operation with
      | "set" => set args s
      | "get" => get args s
      | "list" => list s
      | "clear" => clear s
      | other => s.object (.unknownOperation other operations)

/-- How a value with references is expanded, and how the usage is handed back. -/
def climb (args : List String) : Climb :=
  match args with
  | [] => Result.makingClimb
  | operation :: _ :: word :: words =>
      if Text.lower operation = "set" ∧ Syntax.holdsReference (Text.joinWords (word :: words)) then
        [.entry, .entry, .call, .entry, .call, .call]
      else []
  | _ => []

end Var

def var : Command where
  card := ⟨"var", "Manages variables (set, get, list, clear).", Var.usage, []⟩
  handler := .ofAction Var.run
  strain := .ofClimb fun args _ => Var.climb args

end CommandShell.Builtin
