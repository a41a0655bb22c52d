import CommandShell.Command.Command
import CommandShell.Text.Lower
import CommandShell.Text.Order

/-! The registered commands. A later registration takes over the names that it declares. -/

namespace CommandShell

namespace Directory

/-- Looks a name up without regard to case. There is no command without a name. -/
def find? (d : Directory) (name : String) : Option Card :=
  if name = "" then none else d.get? (Text.lower name)

/-- One card for each name, in the order of the names. Of several cards of one name the one under
the latest key counts. -/
def cards (d : Directory) : List Card :=
  let unique : OrderedMap String Card :=
    OrderedMap.ofList (d.values.map fun c => (c.name, c))
  Text.sortBy Card.name unique.values

end Directory

abbrev Registry := OrderedMap String Command

namespace Registry

def empty : Registry :=
  OrderedMap.empty

def register (r : Registry) (c : Command) : Registry :=
  (c.card.name :: c.card.aliases).foldl (fun r name => r.insert (Text.lower name) c) r

def find? (r : Registry) (name : String) : Option Command :=
  if name = "" then none else r.get? (Text.lower name)

def directory (r : Registry) : Directory :=
  r.mapValues Command.card

end Registry

end CommandShell
