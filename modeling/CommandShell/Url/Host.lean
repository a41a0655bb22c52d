import CommandShell.Url.Reader

/-!
Hosts as a request and the reply to it need them. A request names its host with ASCII characters,
and a name that was encoded has to be readable. A reply is taken only from an address that is again
one when its text is cut into parts, whose brackets then stand around a host of groups.
-/

namespace CommandShell.Url

/-! ## Hosts of requests -/

def checkHost (u : Url) : Except HostFault Unit :=
  if Domain.encodedStart.isPrefixOf u.host then
    match Domain.readName u.host with
    | .error f => .error (.unreadable f)
    | .ok _ => .ok ()
  else
    match Text.EncodeFault.findBeyondAscii? u.hostText with
    | some f => .error (.notAscii f)
    | none => .ok ()

/-! ## Brackets -/

/-- Whether a text is an address of a later kind: a version in hexadecimal digits, a dot, and
something behind it. -/
def isLaterKind (cs : List Char) : Bool :=
  let version := (cs.drop 1).takeWhile isHexDigit
  let rest := cs.drop (version.length + 1)
  cs.head? = some 'v' && !version.isEmpty && rest.head? = some '.' && 2 ≤ rest.length

/-- Whether brackets may stand around a host. -/
def checkBracketed (host : List Char) : Except BracketFault Unit :=
  if host.head? = some 'v' then if isLaterKind host then .ok () else .error .badLater
  else if isFourPart host then .error .fourPart
  else if isEightPart host then .ok ()
  else .error (.notAddress (String.ofList host))

/-- The host of an authority with brackets in it, where it can be told from the port. -/
def bracketedHost? (authority : List Char) : Option (List Char) :=
  let cs := ((cutLast '@' authority).map Prod.snd).getD authority
  if !cs.contains '[' then some (before [':'] cs).1
  else if cs.head? ≠ some '[' then none
  else
    let (host, rest) := before [']'] (cs.drop 1)
    if (rest.drop 1).head?.all (· = ':') then some host else none

def checkBrackets (authority : List Char) : Except BracketFault Unit :=
  if authority.contains '[' ≠ authority.contains ']' then .error .unpaired
  else if !authority.contains '[' then .ok ()
  else
    match bracketedHost? authority with
    | none => .error .notWhole
    | some host => checkBracketed host

/-- The authority in the text of an address. It may come from a path that begins with two
slashes. -/
def soughtAuthority (u : Url) : List Char :=
  (Parts.ofChars u.sought).authority

end CommandShell.Url
