import CommandShell.Command.Command
import CommandShell.Url.Web

/-! The command that puts a question to the chat server. -/

namespace CommandShell.Builtin

namespace Ask

def usage : String := "ask <text...>"

def configPath : Path :=
  Path.ofString "config/llm/default.json"

def readConfig (bound : Json.Bound) (d : Disk) : Except Fault Chat.Config :=
  match d.exists? configPath with
  | .error f => .error (.file f)
  | .ok false => .error (.complaint (.chatNotConfigured configPath))
  | .ok true =>
      match d.readText configPath with
      | .error f => .error (.file f)
      | .ok text =>
          match Json.read bound (Text.unifyNewlines text) with
          | .error f => .error (.json f)
          | .ok v =>
              match Chat.Config.ofJson v with
              | .error f => .error (.config f)
              | .ok cfg => .ok cfg

/-- The settings of the client. Once read, they are kept. -/
def config (bound : Json.Bound) (s : Session) : Except Fault Chat.Config × Session :=
  match s.client with
  | some cfg => (.ok cfg, s)
  | none =>
      match readConfig bound s.disk with
      | .error f => (.error f, s)
      | .ok cfg => (.ok cfg, { s with client := some cfg })

/-- What the server does wrong becomes a complaint. -/
def wrap (cfg : Chat.Config) : Chat.Fault → Fault
  | .problem p => .complaint (.chatFailed cfg.baseUrl cfg.model cfg.timeout p.message)
  | f => .chat f

def run (args : List String) (s : Session) : Outcome :=
  let prompt := Text.trim (Text.joinWords args)
  if prompt.isEmpty then s.object (.usage "ask <text>")
  else
    match config none s with
    | (.error f, s) => s.fail f
    | (.ok cfg, s) =>
        match Chat.ask Url.web Chat.secondsClock cfg prompt s.exchange with
        | (.error f, exchange) => { s with exchange }.fail (wrap cfg f)
        | (.ok text, exchange) => { s with exchange }.answer (.text text)

/-- How the settings of the client are looked for. -/
def lookingClimb : Climb :=
  [.entry, .entry, .entry, .entry, .entry, .text, .entry]

/-- The levels between the command and the reading of its settings. -/
def configLevels : Nat := 2

/-- How a conversation is held. -/
def conversingClimb : Climb :=
  List.replicate 40 .call

/-- Where the stack was used up, if that is the fault. -/
def overflowOf? : Fault → Option Overflow
  | .chat (.tooDeep o) | .chat (.badJson (.tooDeep o)) => some o
  | _ => none

/-- A conversation within some room, and the overrun that ends it. -/
def conversationOverrun? (room : Nat) (args : List String) (s : Session) : Option Overrun :=
  let bound := Json.Bound.ofRoom (some (room - Chat.askLevels))
  match run args { s with exchange := { s.exchange with bound } } with
  | (.ok _, _) => none
  | (.error f, s') =>
      (overflowOf? f).map
        (·, { s' with exchange := { s'.exchange with bound := s.exchange.bound } })

def overrun? (room : Nat) (args : List String) (s : Session) : Option Overrun :=
  if (Text.trim (Text.joinWords args)).isEmpty then none
  else if s.client.isNone ∧ (lookingClimb.overflow? room).isSome then lookingClimb.overrun? room s
  else
    match config (.ofRoom (some (room - configLevels))) s with
    | (.error (.json (.tooDeep o)), s) => some (o, s)
    | (.error _, _) => none
    | (.ok _, s) =>
        (conversingClimb.overrun? room s).orElse fun _ => conversationOverrun? room args s

end Ask

def ask : Command where
  card :=
    ⟨"ask", "Sends text to the configured chat model and prints the reply", Ask.usage, ["q"]⟩
  handler := .ofAction Ask.run
  strain _ := Ask.overrun?

end CommandShell.Builtin
