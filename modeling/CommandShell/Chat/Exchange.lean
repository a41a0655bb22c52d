import CommandShell.Decimal.Binary
import CommandShell.Json.Reader

/-!
The outside of a session: a server whose replies are given beforehand, a clock that only waiting
moves, and the journal of everything that was sent, waited for and launched.
-/

namespace CommandShell.Chat

/-- What a request meets: a failure on the way, or a response. -/
inductive Reply
  | failure (message : String)
  | response (status : Int) (body : String)
  deriving DecidableEq, Repr

inductive Method
  | get
  | post
  deriving DecidableEq, Repr

inductive Event
  | request (method : Method) (url : String) (body : Option Json)
  | sleep (milliseconds : Nat)
  | launch (command : List String) (directory : Option String)

/-- A way to tell the time. Waiting fails if its length is beyond the clock. -/
structure Clock (τ : Type) where
  start : τ
  after : τ → Nat → Option τ
  reached : τ → τ → Bool

/-- Seconds in floating point, as the system's clock shows them. -/
def secondsClock : Clock Float where
  start := 0.0
  after now milliseconds :=
    let x := Float.ofScientific milliseconds false 0
    if x == 1.0 / 0.0 then none else some (now + x / 1000.0)
  reached now deadline := now >= deadline

/-- The length of a wait as that clock shows it, brought back to whole milliseconds. -/
def secondsClock.shown (milliseconds : Nat) : Nat :=
  match Decimal.Binary.ofFloat (Float.ofScientific milliseconds false 0 / 1000.0 * 1000.0) with
  | .finite _ m e => Decimal.nearestWhole m e
  | _ => milliseconds

/-- Exact milliseconds. -/
def millisecondClock : Clock Nat where
  start := 0
  after now milliseconds := some (now + milliseconds)
  reached now deadline := deadline ≤ now

structure Exchange (τ : Type) where
  /-- What requests meet, in turn. -/
  replies : List Reply
  /-- Addresses whose requests meet replies of their own, and take none of the others. -/
  aside : String → Option (List Reply)
  now : τ
  journal : List Event
  /-- How many lists and objects may be inside one another in what is read and sent. -/
  bound : Json.Bound

/-- The failure of a request for which no reply is left. -/
def noReply : String := "no reply"

namespace Exchange

variable {τ : Type}

/-- Replies to all requests in turn. -/
def inTurn (replies : List Reply) (now : τ) : Exchange τ :=
  ⟨replies, fun _ => none, now, [], none⟩

def record (x : Exchange τ) (e : Event) : Exchange τ :=
  { x with journal := x.journal ++ [e] }

/-- What requests to an address meet, one after the other. -/
def repliesAt (x : Exchange τ) (url : String) : List Reply :=
  (x.aside url).getD x.replies

/-- What the next request to an address meets. -/
def nextReply (x : Exchange τ) (url : String) : Reply :=
  (x.repliesAt url).headD (.failure noReply)

/-- Leaves some of the replies to requests at an address. -/
def leaving (x : Exchange τ) (url : String) (replies : List Reply) : Exchange τ :=
  if (x.aside url).isSome then x else { x with replies }

/-- Sends a request, which takes the reply that it meets. -/
def send (x : Exchange τ) (method : Method) (url : String) (body : Option Json) : Exchange τ :=
  (x.record (.request method url body)).leaving url (x.replies.drop 1)

end Exchange

end CommandShell.Chat
