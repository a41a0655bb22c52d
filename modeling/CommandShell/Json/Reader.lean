import CommandShell.Json.Lexeme

/-!
JSON text read as a value. The words are consumed one by one against a stack of the lists and
objects that are still open, and the first word that does not fit is the fault.
-/

namespace CommandShell.Json

/-- How many lists and objects may be inside one another, where that is bounded. -/
abbrev Bound := Option Nat

/-- The levels between the caller of the reader and the first list or object. -/
def readingLevels : Nat := 4

/-- The bound that the room of a caller leaves. -/
def Bound.ofRoom (r : Room) : Bound :=
  r.above readingLevels

/-- Sets a field: a repeated name keeps its first place and takes the later value. -/
def setField (fields : List (String × Json)) (k : String) (v : Json) : List (String × Json) :=
  OrderedMap.insertEntry k v fields

namespace Reader

/-- A list or an object that is still open; the object waits for the value of a field. -/
inductive Frame
  | list (done : List Json)
  | object (done : List (String × Json)) (name : String)

/-- What may come next. -/
inductive Expectation
  | value
  | firstItem
  | firstName
  | name (done : List (String × Json))
  | colon (done : List (String × Json)) (name : String)
  | afterItem (done : List Json)
  | afterField (done : List (String × Json))
  | finished (v : Json)

structure State where
  expects : Expectation
  open_ : List Frame

/-- Puts a complete value where it belongs. -/
def place (v : Json) : List Frame → State
  | [] => ⟨.finished v, []⟩
  | .list done :: rest => ⟨.afterItem (done ++ [v]), rest⟩
  | .object done name :: rest => ⟨.afterField (setField done name v), rest⟩

/-- The fault at a place, a number that is too long, or a list or an object too far inside
others. -/
inductive Stop
  | malformed (kind : FaultKind) (position : Nat)
  | tooManyDigits (count : Nat)
  | tooDeep (o : Overflow)

/-- Opens a list or an object, if it is not too far inside others. -/
def enter (bound : Bound) (frames : List Frame) (o : Overflow) (expects : Expectation) :
    Except Stop State :=
  if bound.all (frames.length < ·) then .ok ⟨expects, frames⟩ else .error (.tooDeep o)

def startValue (bound : Bound) (frames : List Frame) (position : Nat) :
    Lexeme → Except Stop State
  | .scalar v => .ok (place v frames)
  | .string s => .ok (place (.str s) frames)
  | .openBracket => enter bound frames .listReading .firstItem
  | .openBrace => enter bound frames .objectReading .firstName
  | .badString kind at_ => .error (.malformed kind at_)
  | .badNumber count => .error (.tooManyDigits count)
  | _ => .error (.malformed .expectingValue position)

def startName (frames : List Frame) (done : List (String × Json)) (position : Nat) :
    Lexeme → Except Stop State
  | .string s => .ok ⟨.colon done s, frames⟩
  | .badString kind at_ => .error (.malformed kind at_)
  | _ => .error (.malformed .expectingName position)

def step (bound : Bound) (s : State) (position : Nat) (w : Lexeme) : Except Stop State :=
  match s.expects, w with
  | .value, w => startValue bound s.open_ position w
  | .firstItem, .closeBracket => .ok (place (.arr []) s.open_)
  | .firstItem, w => startValue bound (.list [] :: s.open_) position w
  | .firstName, .closeBrace => .ok (place (.obj []) s.open_)
  | .firstName, w => startName s.open_ [] position w
  | .name done, w => startName s.open_ done position w
  | .colon done name, .colon => .ok ⟨.value, .object done name :: s.open_⟩
  | .colon _ _, _ => .error (.malformed .expectingColon position)
  | .afterItem done, .comma => .ok ⟨.value, .list done :: s.open_⟩
  | .afterItem done, .closeBracket => .ok (place (.arr done) s.open_)
  | .afterItem _, _ => .error (.malformed .expectingComma position)
  | .afterField done, .comma => .ok ⟨.name done, s.open_⟩
  | .afterField done, .closeBrace => .ok (place (.obj done) s.open_)
  | .afterField _, _ => .error (.malformed .expectingComma position)
  | .finished _, _ => .error (.malformed .extraData position)

/-- The outcome of a text that ends in a state. -/
def finish (s : State) (position : Nat) : Except Stop Json :=
  match s.expects with
  | .finished v => .ok v
  | .value | .firstItem => .error (.malformed .expectingValue position)
  | .firstName | .name _ => .error (.malformed .expectingName position)
  | .colon _ _ => .error (.malformed .expectingColon position)
  | .afterItem _ | .afterField _ => .error (.malformed .expectingComma position)

def run (bound : Bound) (stop : Nat) (s : State) : List (Lexeme × Nat) → Except Stop Json
  | [] => finish s stop
  | (w, position) :: rest =>
      match step bound s position w with
      | .error e => .error e
      | .ok s => run bound stop s rest

end Reader

/-- Reads a whole text. -/
def readText (bound : Bound) (cs : List Char) : Except Fault Json :=
  let (ws, stop) := Lexeme.split 0 cs
  match Reader.run bound stop ⟨.value, []⟩ ws with
  | .ok v => .ok v
  | .error (.malformed kind position) => .error (Fault.at cs kind position)
  | .error (.tooManyDigits count) => .error (.tooManyDigits count)
  | .error (.tooDeep o) => .error (.tooDeep o)

/-- Reads a whole text. A byte order mark at its head is a fault. -/
def read (bound : Bound) (s : String) : Except Fault Json :=
  if s.toList.head? = some '\ufeff' then .error (Fault.at s.toList .byteOrderMark 0)
  else readText bound s.toList

end CommandShell.Json
