import CommandShell.Command.Command

/-! Commands that a host describes as data. -/

namespace CommandShell

inductive Behaviour
  /-- Shows its arguments with bars between them. -/
  | join
  | value (v : Json)
  | result (r : Result)
  /-- Keeps the call and shows the name of the command. -/
  | record
  /-- Runs a line and shows what its results hold. -/
  | line (text : String)
  | raise (f : Fault)

namespace Behaviour

def handler (name : String) : Behaviour → Handler
  | join => fun _ args => .answer (.ok (.text (String.intercalate "|" args)))
  | value v => fun _ _ => .answer (.ok (.value v))
  | result r => fun _ _ => .answer (.ok (.result r))
  | record => .ofAction fun args s =>
      (.ok (.text name), { s with calls := s.calls ++ [(name, args)] })
  | line text => fun _ _ => .line text fun rs => .answer (.ok (.lines (rs.map Result.text)))
  | raise f => fun _ _ => .answer (.error f)

/-- A command with a description and a usage made from its name. -/
def command (b : Behaviour) (name : String) (aliases : List String) : Command :=
  ⟨⟨name, "help of " ++ name, name ++ " ...", aliases⟩, b.handler name, .slight⟩

end Behaviour

end CommandShell
