import CommandShell.Domain.Fault

/-! What is wrong with a text that is no address, and with a host that cannot be asked. -/

namespace CommandShell.Url

inductive Part
  | scheme
  | authority
  | path
  | query
  | fragment
  deriving DecidableEq, Repr

def Part.name : Part → String
  | scheme => "scheme"
  | authority => "authority"
  | path => "path"
  | query => "query"
  | fragment => "fragment"

inductive Fault
  | tooLong
  | partTooLong (part : Part)
  | control (c : Char) (position : Nat)
  | badPort (port : String)
  | badFourPart (host : String)
  | badEightPart (host : String)
  | badName (host : String)
  /-- An authority with a path that does not begin with a slash. -/
  | pathUnrooted
  /-- No scheme and no authority, but two slashes at the head of the path. -/
  | pathDoubled
  /-- No scheme and no authority, but a colon at the head of the path. -/
  | pathColon
  | notEncodable (f : Text.EncodeFault)
  deriving DecidableEq, Repr

def Fault.message : Fault → String
  | tooLong => "URL too long"
  | partTooLong part => "URL component '" ++ part.name ++ "' too long"
  | control c position =>
      "Invalid non-printable ASCII character in URL, " ++ Text.quoted (String.singleton c)
        ++ s!" at position {position}."
  | badPort port => "Invalid port: " ++ Text.quoted port
  | badFourPart host => "Invalid IPv4 address: " ++ Text.quoted host
  | badEightPart host => "Invalid IPv6 address: " ++ Text.quoted host
  | badName host => "Invalid IDNA hostname: " ++ Text.quoted host
  | pathUnrooted => "For absolute URLs, path must be empty or begin with '/'"
  | pathDoubled => "Relative URLs cannot have a path starting with '//'"
  | pathColon => "Relative URLs cannot have a path starting with ':'"
  | notEncodable f => f.message

/-- What keeps a host from being named in a request. -/
inductive HostFault
  | unreadable (f : Domain.Fault)
  | notAscii (f : Text.EncodeFault)
  deriving DecidableEq, Repr

def HostFault.message : HostFault → String
  | unreadable f => f.message
  | notAscii f => f.asciiMessage

/-- What is wrong with the brackets in an authority. -/
inductive BracketFault
  /-- Brackets of one kind without the other. -/
  | unpaired
  /-- Characters around the brackets that belong to no port. -/
  | notWhole
  /-- An address of a later kind that is not written as one. -/
  | badLater
  | notAddress (host : String)
  /-- Four decimal numbers, which need no brackets. -/
  | fourPart
  deriving DecidableEq, Repr

def BracketFault.message : BracketFault → String
  | unpaired | notWhole => "Invalid IPv6 URL"
  | badLater => "IPvFuture address is invalid"
  | notAddress host => Text.quoted host ++ " does not appear to be an IPv4 or IPv6 address"
  | fourPart => "An IPv4 address cannot be in brackets"

end CommandShell.Url
