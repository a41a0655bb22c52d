import CommandShell.Chat.Web
import CommandShell.Url.Host

/-! Addresses as conversations ask for them. -/

namespace CommandShell

def Domain.Fault.label : Domain.Fault → String
  | forbidden .. => "InvalidCodepoint"
  | misplaced .. | joinsNothing .. => "InvalidCodepointContext"
  | noDirection .. | firstDirection _ | notRightToLeft _ | notLeftToRight _ | mixedDigits
  | lastDirection => "IDNABidiError"
  | _ => "IDNAError"

namespace Url

open Chat (AddressFault)

def Fault.toAddress (f : Fault) : AddressFault :=
  match f with
  | .notEncodable _ => ⟨"UnicodeEncodeError", true, f.message⟩
  | f => ⟨"InvalidURL", false, f.message⟩

def HostFault.toAddress (f : HostFault) : AddressFault :=
  match f with
  | .unreadable d => ⟨d.label, true, f.message⟩
  | .notAscii _ => ⟨"UnicodeEncodeError", true, f.message⟩

/-- A refused value without a name of its own. -/
def refusal (message : String) : AddressFault :=
  ⟨"ValueError", true, message⟩

def hostFault? (u : Url) : Option AddressFault :=
  match u.checkHost with
  | .error f => some f.toAddress
  | .ok () => none

/-- An address must say how it is reached, and its brackets must stand around a host of groups. -/
def sourceFault? (u : Url) : Option AddressFault :=
  if !u.isReachable then
    some (refusal ("unknown url type: " ++ Text.quoted (String.ofList u.sought)))
  else
    match checkBrackets u.soughtAuthority with
    | .error f => some (refusal f.message)
    | .ok () => none

/-- The library with these addresses. -/
def web : Chat.Web Url where
  base s := (readBase s).mapError Fault.toAddress
  under u s := (u.under s).mapError Fault.toAddress
  text := text
  hostFault? := hostFault?
  sourceFault? := sourceFault?

end Url

end CommandShell
