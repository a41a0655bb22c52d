import CommandShell.Calc.Evaluate
import CommandShell.Chat.Client
import CommandShell.Command.Alias
import CommandShell.Command.Complaint
import CommandShell.Command.Limit
import CommandShell.Files.Fault

/-! Everything that a command can fail with, and how the failure is shown. -/

namespace CommandShell

/-- How a failure came about. Refusals and troubles with the system are part of a command's work;
the others carry a label that is shown before their message. -/
inductive FaultKind
  | refusal
  | system
  | console
  /-- Of the console's own failures, one that tells of a bound that was reached. -/
  | bound
  | unexpected (label : String)
  deriving DecidableEq, Repr

inductive Fault
  | complaint (c : Complaint)
  | blankVariable
  | keyMissing
  | naming (f : AliasFault)
  | limit (l : Limit)
  /-- The stack of the host is used up. -/
  | overflow (o : Overflow)
  | file (f : FileFault)
  | number (f : NumberFault)
  | arithmetic (f : Calc.Fault)
  | json (f : Json.Fault)
  | config (f : Chat.ConfigFault)
  | chat (f : Chat.Fault)
  /-- A text that standard output does not take. -/
  | unprintable (message : String)
  /-- A setting that names no file. -/
  | notPath (kind : String)
  | unknownLevel (name : String)
  /-- A level that is neither a name nor a number. -/
  | noLevel
  /-- Raised by a command that the host registered. -/
  | raised (kind : FaultKind) (message : String)
  /-- Raised by such a command, but without a text: to ask for one raises something unexpected or,
  without a label, a refusal. -/
  | mute (kind : FaultKind) (label : Option String) (message : String)

namespace Fault

def numberKind : NumberFault → FaultKind
  | .wrongKind _ => .unexpected "TypeError"
  | .infinite | .beyondFloat => .unexpected "OverflowError"
  | _ => .refusal

def overflowLabel : String := "RecursionError"

def jsonKind : Json.Fault → FaultKind
  | .tooDeep _ => .unexpected overflowLabel
  | _ => .refusal

def chatKind : Chat.Fault → FaultKind
  | .problem _ => .unexpected "ChatError"
  | .tooDeep _ => .unexpected overflowLabel
  | .noMessages _ => .unexpected "TypeError"
  | .noFields _ => .unexpected "AttributeError"
  | .badJson f => jsonKind f
  | .number f => numberKind f
  | .address f => if f.isRefusal then .refusal else .unexpected f.label
  | _ => .refusal

def kind : Fault → FaultKind
  | complaint _ | blankVariable | keyMissing | arithmetic _ | unprintable _ => .refusal
  | json f => jsonKind f
  | naming _ => .console
  | limit _ => .bound
  | overflow _ | file (.tooDeep _) => .unexpected overflowLabel
  | file f => if f.isSystem then .system else .refusal
  | number f => numberKind f
  | config .baseUrlMissing => .refusal
  | config (.noFields _) => .unexpected "AttributeError"
  | config (.number f) => numberKind f
  | config (.json f) => jsonKind f
  | chat f => chatKind f
  | notPath _ | noLevel => .unexpected "TypeError"
  | unknownLevel _ => .refusal
  | raised kind _ | mute kind .. => kind

/-- The text of a failure, or what is raised when it is asked for its text. -/
def message : Fault → Except Fault String
  | complaint c => .ok c.message
  | blankVariable => .ok "Variable name cannot be empty"
  | keyMissing => .ok "Cache key cannot be None"
  | naming f => .ok f.message
  | limit l => .ok l.message
  | overflow o => .ok o.message
  | file f => .ok f.message
  | number f => .ok f.message
  | arithmetic f => .ok f.message
  | json f => .ok f.message
  | config f => .ok f.message
  | chat f => .ok f.message
  | unprintable message => .ok message
  | notPath kind => .ok s!"expected str, bytes or os.PathLike object, not {kind}"
  | unknownLevel name => .ok ("Unknown level: " ++ Text.quoted name)
  | noLevel => .ok "Level not an integer or a valid string"
  | raised _ message => .ok message
  | mute _ label message => .error (.raised (label.elim .refusal .unexpected) message)

/-- Whether a failure tells of a bound that was reached. -/
def isLimit (f : Fault) : Bool :=
  f.kind = .bound

/-- Whether a failure is one of the console's own. -/
def isConsole (f : Fault) : Bool :=
  f.kind = .console || f.isLimit

/-- The text of a failure in a result. -/
def shown (f : Fault) : Except Fault String :=
  match f.kind with
  | .unexpected label => f.message.map fun text => label ++ ": " ++ text
  | _ => f.message

end Fault

/-- The result that shows a failure. -/
def Result.ofFault (f : Fault) : Except Fault Result :=
  f.shown.map .failure

/-- The result of what a command hands back or fails with. What cannot be shown is itself a failure
of the command. -/
def Result.ofOutcome : Except Fault Output → Except Fault Result
  | .ok o =>
      match o.toResult with
      | .ok r => .ok r
      | .error f => ofFault (.json f)
  | .error f => ofFault f

end CommandShell
