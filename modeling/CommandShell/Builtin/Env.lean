import CommandShell.Command.Command
import CommandShell.Text.Lower
import CommandShell.Text.Order

/-! The command for environment variables. -/

namespace CommandShell.Builtin

namespace Env

def usage : String :=
  Text.joinLines
    ["env - Display all environment variables", "env list - Display all environment variables",
      "env get <name> - Get the value of an environment variable",
      "env set <name> <value> - Set the value of an environment variable"]

def subcommands : List String :=
  ["list", "get", "set"]

def assignment (name value : String) : String :=
  name ++ "=" ++ value

def list (s : Session) : Outcome :=
  match Text.sortBy Prod.fst s.environment.entries with
  | [] => s.answer (.text "No environment variables found")
  | entries =>
      s.answer (.lines ("Environment variables:" :: entries.map fun (name, value) =>
        assignment name value))

/-- Whether a text has an encoding. -/
def encodable (s : String) : Except Fault Unit :=
  match Text.EncodeFault.findInName? 0 (Text.codes s.toList) with
  | some f => .error (.file (.notEncodable f))
  | none => .ok ()

def get (args : List String) (s : Session) : Outcome :=
  match args with
  | [] => s.object .environmentNameMissing
  | name :: _ =>
      match encodable name with
      | .error f => s.fail f
      | .ok () =>
          match s.environment.get? name with
          | none => s.object (.environmentNotFound name)
          | some value => s.answer (.text value)

/-- Whether the system takes a name with a value. -/
def check (name value : String) : Except Fault Unit :=
  match encodable name, encodable value with
  | .error f, _ | _, .error f => .error f
  | .ok (), .ok () =>
      if (name.toList ++ value.toList).contains '\x00' then .error (.file .nullCharacter)
      else if name.toList.contains '=' then .error (.complaint .environmentNameIllegal)
      else if name = "" then .error (.file (.system .invalidArgument none))
      else .ok ()

def set (args : List String) (s : Session) : Outcome :=
  match args with
  | name :: word :: words =>
      let value := Text.joinWords (word :: words)
      match check name value with
      | .error f => s.fail f
      | .ok () =>
          { s with environment := s.environment.insert name value }.answer
            (.text ("Environment variable set: " ++ assignment name value))
  | _ => s.object (.notEnoughArguments "env set <name> <value>")

def run (args : List String) (s : Session) : Outcome :=
  match args with
  | [] => list s
  | sub :: args =>
      match Text.lower sub with
      | "list" => list s
      | "get" => get args s
      | "set" => set args s
      | other => s.object (.unknownSubcommand other subcommands)

end Env

def env : Command where
  card := ⟨"env", "Managing environment variables", Env.usage, []⟩
  handler := .ofAction Env.run
  strain := .slight

end CommandShell.Builtin
