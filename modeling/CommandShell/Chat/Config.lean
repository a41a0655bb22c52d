import CommandShell.Json.Display
import CommandShell.Json.Whole
import CommandShell.Text.Blank

/-! Settings of the chat client, read from a JSON object. -/

namespace CommandShell.Chat

/-- Times are in milliseconds. -/
structure Config where
  baseUrl : String
  timeout : Nat
  pollInterval : Nat
  model : String
  deriving DecidableEq, Repr

inductive ConfigFault
  | baseUrlMissing
  /-- The settings are no object. -/
  | noFields (kind : String)
  | number (fault : NumberFault)
  /-- A text that cannot be made of a value. -/
  | json (fault : Json.Fault)
  deriving DecidableEq, Repr

def noFieldsMessage (kind : String) : String :=
  s!"'{kind}' object has no attribute 'get'"

def ConfigFault.message : ConfigFault → String
  | baseUrlMissing => "config.base_url missing/empty"
  | noFields kind => noFieldsMessage kind
  | number fault => fault.message
  | json fault => fault.message

def defaultModel : String := "llama3.1:8b"

def defaultTimeout : Int := 8000

def defaultPollInterval : Int := 200

namespace Config

/-- The text of a field; a field that counts as absent has the text of a default. -/
def textField (v : Json) (name default : String) : Except ConfigFault String :=
  match v.field? name with
  | some f => if f.isTruthy then f.display.mapError .json else .ok default
  | none => .ok default

/-- A time; below zero it is zero. -/
def timeField (v : Json) (name : String) (default : Int) : Except ConfigFault Nat :=
  match ((v.field? name).getD (.int default)).whole with
  | .ok n => .ok n.toNat
  | .error f => .error (.number f)

def dropSlashes (cs : List Char) : List Char :=
  (cs.reverse.dropWhile (· = '/')).reverse

def ofJson (v : Json) : Except ConfigFault Config :=
  match v with
  | .obj _ =>
      match textField v "base_url" "" with
      | .error f => .error f
      | .ok address =>
          let url := Text.trim address
          if url.isEmpty then .error .baseUrlMissing
          else
            match timeField v "timeout_ms" defaultTimeout,
                timeField v "poll_interval_ms" defaultPollInterval,
                textField v "model" defaultModel with
            | .error f, _, _ | .ok _, .error f, _ | .ok _, .ok _, .error f => .error f
            | .ok timeout, .ok pollInterval, .ok model =>
                .ok ⟨String.ofList (dropSlashes url.toList), timeout, pollInterval,
                  Text.trim model⟩
  | v => .error (.noFields v.kindName)

end Config

end CommandShell.Chat
