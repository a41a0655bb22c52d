import CommandShell.Chat.Config
import CommandShell.Chat.Exchange
import CommandShell.Chat.Web
import CommandShell.Json.Encoding
import CommandShell.Json.Reader
import CommandShell.Json.Writer

/-!
A chat with a job server. One request submits the job, then its state is asked for until it is
settled or the time is up. A job that was submitted and did not end well is cancelled once.
-/

namespace CommandShell.Chat

/-- What the server or the way to it did wrong. -/
inductive Problem
  | submitFailed (message : String)
  | submitRefused (status : Int) (body : String)
  | jobMissing
  | pollFailed (message : String)
  | pollRefused (status : Int) (body : String)
  | stateMissing
  | textMissing
  | reported (code message : String)
  | timeout
  deriving DecidableEq, Repr

def Problem.message : Problem → String
  | submitFailed message => "submit failed: " ++ message
  | submitRefused status body => s!"submit failed: HTTP {status} :: " ++ body
  | jobMissing => "submit failed: missing job id"
  | pollFailed message => "poll failed: " ++ message
  | pollRefused status body => s!"poll failed: HTTP {status} :: " ++ body
  | stateMissing => "poll failed: non-object json"
  | textMissing => "Malformed response: result.text missing"
  | reported code message => code ++ ": " ++ message
  | timeout => "chat timeout"

inductive Fault
  | problem (p : Problem)
  | badMessage
  /-- The messages are no list. -/
  | noMessages (kind : String)
  | badJson (f : Json.Fault)
  | badEncoding (f : Json.Encoding.Fault)
  | noFields (kind : String)
  | number (f : NumberFault)
  | address (f : AddressFault)
  /-- A number without a value stands in what is sent. -/
  | notFinite
  /-- What is sent is nested too far. -/
  | tooDeep (o : Overflow)
  | notEncodable (f : Text.EncodeFault)
  deriving DecidableEq, Repr

def Fault.message : Fault → String
  | problem p => p.message
  | badMessage => "each message must be dict with keys: role, content"
  | noMessages kind => s!"'{kind}' object is not iterable"
  | badJson f => f.message
  | badEncoding f => f.message
  | noFields kind => noFieldsMessage kind
  | number f => f.message
  | address f => f.message
  | notFinite => "Out of range float values are not JSON compliant"
  | tooDeep o => o.message
  | notEncodable f => f.message

variable {τ υ : Type}

/-- A message is an object with a role and a content, whatever they are. -/
def isMessage : Json → Bool
  | .obj fields => (fields.lookup "role").isSome && (fields.lookup "content").isSome
  | _ => false

def userMessage (content : Json) : Json :=
  .obj [("role", .str "user"), ("content", content)]

/-- What may be sent as messages: a list of them, or something empty that could hold some. -/
def checkMessages : Json → Except Fault Unit
  | .arr items => if items.all isMessage then .ok () else .error .badMessage
  | .obj fields => if fields.isEmpty then .ok () else .error .badMessage
  | .str s => if s.isEmpty then .ok () else .error .badMessage
  | v => .error (.noMessages v.kindName)

def payload (cfg : Config) (messages : Json) : Json :=
  .obj [("op", .str "llm.chat"),
    ("args", .obj [("messages", messages), ("model", .str cfg.model)]),
    ("timeout_ms", .int cfg.timeout)]

/-- How many levels the writing of what is sent takes beyond the reading of what is received. -/
def writingLevels : Nat := 6

/-- What keeps a value from being sent. -/
def bodyFault? (bound : Json.Bound) (v : Json) : Option Fault :=
  match v.unwritable? true with
  | some .notFinite => some .notFinite
  | some .tooManyDigits => some (.badJson .unwritable)
  | none =>
      if bound.any (· < v.depth + writingLevels) then some (.tooDeep .objectWriting)
      else (Text.EncodeFault.find? (Json.Writer.value .compact 0 v)).map .notEncodable

/-! ## Addresses -/

def jobsPath : String := "/v1/jobs"

def jobPath (id : String) : String :=
  jobsPath ++ "/" ++ id

def cancelPath (id : String) : String :=
  jobPath id ++ "/cancel"

namespace Web

/-- The address of something on a server. -/
def address (web : Web υ) (base : υ) (path : String) : Except Fault υ :=
  (web.under base path).mapError .address

end Web

/-! ## Replies -/

/-- A body read as JSON. -/
def readBody (bound : Json.Bound) (body : String) : Except Fault Json :=
  match Json.Encoding.decode body with
  | .error f => .error (.badEncoding f)
  | .ok cs => (Json.readText bound cs).mapError .badJson

/-- The fields of a value that must be an object. -/
def needFields : Json → Except Fault Json
  | .obj fields => .ok (.obj fields)
  | v => .error (.noFields v.kindName)

/-- The job that the body of a response names. -/
def jobOfBody (bound : Json.Bound) (body : String) : Except Fault String :=
  match readBody bound body with
  | .error f => .error f
  | .ok v =>
      match needFields v with
      | .error f => .error f
      | .ok v =>
          match v.field? "id" with
          | some (.str id) => if id.isEmpty then .error (.problem .jobMissing) else .ok id
          | _ => .error (.problem .jobMissing)

/-- The job that a reply to the submission at an address names. -/
def jobOf (web : Web υ) (bound : Json.Bound) (url : υ) : Reply → Except Fault String
  | .failure message => .error (.problem (.submitFailed message))
  | .response status body =>
      match web.sourceFault? url with
      | some f => .error (.address f)
      | none =>
          if status ≠ 200 ∧ status ≠ 201 then .error (.problem (.submitRefused status body))
          else jobOfBody bound body

/-- What a reply says about a job. -/
inductive Status
  | done (text : String)
  | failed (f : Fault)
  | pending

/-- An object held in a field; a field that counts as absent holds an empty one. -/
def innerObject (v : Json) (name : String) : Except Fault Json :=
  match v.field? name with
  | some f => if f.isTruthy then needFields f else .ok (.obj [])
  | none => .ok (.obj [])

def displayField (v : Json) (name default : String) : Except Fault String :=
  (((v.field? name).getD (.str default)).display).mapError .badJson

def statusOfObject (v : Json) : Status :=
  match v.field? "state" with
  | some (.str "ok") =>
      match innerObject v "result" with
      | .error f => .failed f
      | .ok result =>
          match result.field? "text" with
          | some (.str text) => .done text
          | _ => .failed (.problem .textMissing)
  | some (.str "fail") | some (.str "timeout") | some (.str "cancelled") =>
      match innerObject v "error" with
      | .error f => .failed f
      | .ok e =>
          match displayField e "code" "ERROR", displayField e "message" "unknown error" with
          | .error f, _ | .ok _, .error f => .failed f
          | .ok code, .ok message => .failed (.problem (.reported code message))
  | _ => .pending

def statusOfBody (bound : Json.Bound) (body : String) : Status :=
  match readBody bound body with
  | .error f => .failed f
  | .ok (.obj fields) => statusOfObject (.obj fields)
  | .ok _ => .failed (.problem .stateMissing)

/-- What a reply from the address of a job says about it. -/
def statusOf (web : Web υ) (bound : Json.Bound) (url : υ) : Reply → Status
  | .failure message => .failed (.problem (.pollFailed message))
  | .response status body =>
      match web.sourceFault? url with
      | some f => .failed (.address f)
      | none =>
          if status ≠ 200 then .failed (.problem (.pollRefused status body))
          else statusOfBody bound body

/-! ## Conversations -/

section Conversations

variable (web : Web υ) (clock : Clock τ) (cfg : Config)

/-- Asks for the state of a job, once for each of the replies that it meets, until it is settled.
The replies that are left over come with the outcome. -/
def poll (url : υ) (deadline : τ) :
    List Reply → Exchange τ → Except Fault String × List Reply × Exchange τ
  | replies, x =>
      let x := x.record (.request .get (web.text url) none)
      match replies with
      | [] => (.error (.problem (.pollFailed noReply)), [], x)
      | reply :: rest =>
          match statusOf web x.bound url reply with
          | .done text => (.ok text, rest, x)
          | .failed f => (.error f, rest, x)
          | .pending =>
              if 0 < cfg.timeout ∧ clock.reached x.now deadline then
                (.error (.problem .timeout), rest, x)
              else
                match clock.after x.now cfg.pollInterval with
                | none => (.error (.number .beyondFloat), rest, x)
                | some now =>
                    poll url deadline rest { x.record (.sleep cfg.pollInterval) with now }

/-- Follows a job to its end. -/
def follow (base : υ) (id : String) (deadline : τ) (x : Exchange τ) :
    Except Fault String × Exchange τ :=
  match web.address base (jobPath id) with
  | .error f => (.error f, x)
  | .ok url =>
      let (r, replies, x) := poll web clock cfg url deadline (x.repliesAt (web.text url)) x
      (r, x.leaving (web.text url) replies)

/-- Submits a job and names it. Its host is that of every later request. -/
def submit (base : υ) (messages : Json) (x : Exchange τ) : Except Fault String × Exchange τ :=
  match web.address base jobsPath, bodyFault? x.bound (payload cfg messages) with
  | .error f, _ | .ok _, some f => (.error f, x)
  | .ok url, none =>
      match web.hostFault? url with
      | some f => (.error (.address f), x)
      | none =>
          (jobOf web x.bound url (x.nextReply (web.text url)),
            x.send .post (web.text url) (some (payload cfg messages)))

/-- The fault that a reply to the request to cancel leaves. What went wrong on its way is of no
account. -/
def faultAfter (url : υ) (f : Fault) : Reply → Fault
  | .failure _ => f
  | .response .. => ((web.sourceFault? url).map .address).getD f

/-- Cancels a job after a fault. The fault stays, unless the address to cancel at has another. -/
def cancel (base : υ) (id : String) (f : Fault) (x : Exchange τ) : Fault × Exchange τ :=
  match web.address base (cancelPath id) with
  | .error f => (f, x)
  | .ok url =>
      (faultAfter web url f (x.nextReply (web.text url)), x.send .post (web.text url) none)

/-- The text that a server answers to some messages. -/
def converse (base : υ) (messages : Json) (deadline : τ) (x : Exchange τ) :
    Except Fault String × Exchange τ :=
  match submit web cfg base messages x with
  | (.error f, x) => (.error f, x)
  | (.ok id, x) =>
      match follow web clock cfg base id deadline x with
      | (.ok text, x) => (.ok text, x)
      | (.error f, x) =>
          let (f, x) := cancel web base id f x
          (.error f, x)

/-- The text that the configured server answers to some messages. -/
def chat (messages : Json) (x : Exchange τ) : Except Fault String × Exchange τ :=
  match checkMessages messages, clock.after x.now cfg.timeout, web.base cfg.baseUrl with
  | .error f, _, _ => (.error f, x)
  | .ok (), none, _ => (.error (.number .beyondFloat), x)
  | .ok (), some _, .error f => (.error (.address f), x)
  | .ok (), some deadline, .ok base => converse web clock cfg base messages deadline x

def ask (prompt : String) (x : Exchange τ) : Except Fault String × Exchange τ :=
  chat web clock cfg (.arr [userMessage (.str prompt)]) x

end Conversations

/-- The levels between whoever holds a conversation and the reading of a reply. -/
def chatLevels : Nat := 11

/-- The same for a conversation about one question. -/
def askLevels : Nat := 12

end CommandShell.Chat
