import CommandShell.Json.Display
import CommandShell.Text.Blank
import CommandShell.Text.Pad

/-! A command as it is called, and the outcome of a call. -/

namespace CommandShell

/-- A name with its arguments. -/
structure Invocation where
  name : String
  args : List String
  deriving DecidableEq, Repr

def Invocation.text (i : Invocation) : String :=
  Text.joinWords (i.name :: i.args)

structure Result where
  isError : Bool
  output : Option String
  deriving DecidableEq, Repr

namespace Result

def success (text : String) : Result :=
  ⟨false, some text⟩

def failure (message : String) : Result :=
  ⟨true, some message⟩

def text (r : Result) : String :=
  r.output.getD ""

/-- Whether there is anything but blanks to show. -/
def hasOutput (r : Result) : Bool :=
  match r.output with
  | some s => !Text.isBlankText s
  | none => false

/-- What a user sees of some results, if there is anything to see. -/
def shown (rs : List Result) : Option String :=
  let texts := rs.filterMap fun r =>
    if r.isError then some ("Error: " ++ r.text) else if r.hasOutput then some r.text else none
  if texts.isEmpty then none else some (Text.joinLines texts)

end Result

/-- What a command hands back: a value to be shown, or a result of its own making. -/
inductive Output
  | value (v : Json)
  | result (r : Result)

namespace Output

def nothing : Output :=
  value .null

def text (s : String) : Output :=
  value (.str s)

def lines (ls : List String) : Output :=
  value (.arr (ls.map .str))

/-- Null shows nothing, and a list shows one entry a line. -/
def toResult : Output → Except Json.Fault Result
  | result r => .ok r
  | value .null => .ok (.success "")
  | value (.arr items) => (Json.displayAll items).map fun ls => .success (Text.joinLines ls)
  | value v => v.display.map .success

end Output

end CommandShell
