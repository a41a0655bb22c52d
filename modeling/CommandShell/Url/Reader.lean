import CommandShell.Domain.Name
import CommandShell.Json.Whole
import CommandShell.Text.Lower
import CommandShell.Url.Address
import CommandShell.Url.Basic
import CommandShell.Url.Quote

/-! Addresses read from text, and addresses below others. -/

namespace CommandShell.Url

/-! ## Cutting a text into parts -/

/-- The parts of an address as they are given. -/
structure Parts where
  scheme : List Char
  authority : List Char
  path : List Char
  query : Option (List Char)
  fragment : Option (List Char)

/-- What stands before the first of some marks, and the rest. -/
def before (marks : List Char) (cs : List Char) : List Char × List Char :=
  (cs.takeWhile fun c => !marks.contains c, cs.dropWhile fun c => !marks.contains c)

def isSchemeChar (c : Char) : Bool :=
  c.isAlphanum || c = '+' || c = '.' || c = '-'

/-- The scheme before the first colon; it begins with a letter or is empty. -/
def cutScheme (cs : List Char) : List Char × List Char :=
  let word := cs.takeWhile isSchemeChar
  match cs.drop word.length with
  | ':' :: rest => if word.head?.all Char.isAlpha then (word, rest) else ([], cs)
  | _ => ([], cs)

def cutAuthority : List Char → List Char × List Char
  | '/' :: '/' :: rest => before ['/', '?', '#'] rest
  | cs => ([], cs)

/-- The part behind a mark, and the rest. -/
def cutMarked (mark : Char) (marks : List Char) : List Char → Option (List Char) × List Char
  | [] => (none, [])
  | c :: rest =>
      if c = mark then
        let (part, rest) := before marks rest
        (some part, rest)
      else (none, c :: rest)

def Parts.ofChars (cs : List Char) : Parts :=
  let (scheme, cs) := cutScheme cs
  let (authority, cs) := cutAuthority cs
  let (path, cs) := before ['?', '#'] cs
  let (query, cs) := cutMarked '?' ['#'] cs
  let (fragment, _) := cutMarked '#' [] cs
  ⟨scheme, authority, path, query, fragment⟩

/-- What stands before the last of a mark, if there is any, and what stands after it. -/
def cutLast (mark : Char) (cs : List Char) : Option (List Char × List Char) :=
  if cs.contains mark then
    let last := (cs.reverse.takeWhile (· ≠ mark)).reverse
    some (cs.take (cs.length - last.length - 1), last)
  else none

/-- The host at the head of a text, and the rest. One in brackets ends with the last bracket. -/
def cutHost (cs : List Char) : List Char × List Char :=
  match (if cs.head? = some '[' then cutLast ']' cs else none) with
  | some (host, rest) => (host ++ [']'], rest)
  | none => before [':', '@'] cs

/-- The user, the host and the text of the port. -/
def cutUser (authority : List Char) : List Char × List Char × List Char :=
  let (user, cs) := (cutLast '@' authority).getD ([], authority)
  let (host, cs) := cutHost cs
  (user, host, if cs.head? = some ':' then cs.drop 1 else cs)

/-! ## Reading the parts -/

/-- The host as it is written: by numbers, or as a name in small letters. -/
def readHost (cs : List Char) : Except Fault (List Char) :=
  let lower := (Text.lower (String.ofList cs)).toList
  if cs.isEmpty then .ok []
  else if looksFourPart cs then
    if isFourPart cs then .ok cs else .error (.badFourPart (String.ofList cs))
  else if looksBracketed cs then
    if isEightPart (cs.drop 1).dropLast then .ok (cs.drop 1).dropLast
    else .error (.badEightPart (String.ofList cs))
  else if cs.all fun c => c.toNat < 0x80 then (quote isHostChar lower).mapError .notEncodable
  else
    match Domain.writeName (Text.codes lower) with
    | .ok name => .ok name
    | .error _ => .error (.badName (String.ofList cs))

/-- The ports that go without saying. -/
def defaultPorts : List (String × Int) :=
  [("ftp", 21), ("http", 80), ("https", 443), ("ws", 80), ("wss", 443)]

def readPort (scheme cs : List Char) : Except Fault (Option Int) :=
  if cs.isEmpty then .ok none
  else
    match Whole.ofText (String.ofList cs) with
    | .error _ => .error (.badPort (String.ofList cs))
    | .ok n =>
        .ok (if defaultPorts.lookup (String.ofList scheme) = some n then none else some n)

/-- A path without the parts that stand for the same or the higher directory. -/
def straighten (cs : List Char) : List Char :=
  let parts := Text.splitAt (· = '/') cs
  if parts.contains ['.'] || parts.contains ['.', '.'] then
    ['/'].intercalate (parts.foldl go []).reverse
  else cs
where
  /-- Takes one more part; the parts before it are given from the last to the first. -/
  go (done : List (List Char)) (part : List Char) : List (List Char) :=
    if part = ['.'] then done
    else if part = ['.', '.'] then (if done = [[]] then done else done.drop 1)
    else part :: done

/-- Whether a path may follow a scheme and an authority. -/
def checkPath (hasScheme hasAuthority : Bool) (path : List Char) : Except Fault Unit :=
  if hasAuthority then
    if path.isEmpty || path.head? = some '/' then .ok () else .error .pathUnrooted
  else if hasScheme then .ok ()
  else if ['/', '/'].isPrefixOf path then .error .pathDoubled
  else if path.head? = some ':' then .error .pathColon
  else .ok ()

/-- Writes a part that may be missing. -/
def quote? (isAllowed : Char → Bool) :
    Option (List Char) → Except Text.EncodeFault (Option (List Char))
  | none => .ok none
  | some cs => (quote isAllowed cs).map some

def ofParts (p : Parts) : Except Fault Url := do
  let (user, host, port) := cutUser p.authority
  let user ← (quote isUserChar user).mapError .notEncodable
  let host ← readHost host
  let port ← readPort p.scheme port
  let hasScheme := !p.scheme.isEmpty
  let hasAuthority := !user.isEmpty || !host.isEmpty || port.isSome
  checkPath hasScheme hasAuthority p.path
  let path := if hasScheme || hasAuthority then straighten p.path else p.path
  let path ← (quote isPathChar path).mapError .notEncodable
  let query ← (quote? isQueryChar p.query).mapError .notEncodable
  let fragment ← (quote? isFragmentChar p.fragment).mapError .notEncodable
  return ⟨p.scheme.map Char.toLower, user, host, port, path, query, fragment⟩

def isControl (c : Char) : Bool :=
  c.toNat < 0x20 || c.toNat = 0x7F

/-- Reads a text. No ASCII control character may stand anywhere in it. -/
def read (text : String) : Except Fault Url :=
  let cs := text.toList
  if maxLength < Text.size cs then .error .tooLong
  else
    match cs.find? isControl with
    | some c => .error (.control c (Text.size (cs.takeWhile (!isControl ·))))
    | none => ofParts (Parts.ofChars cs)

/-! ## Addresses below others -/

/-- The first part that is too long. -/
def Parts.excess? (p : Parts) : Option Part :=
  let sizes :=
    [(Part.scheme, p.scheme), (.authority, p.authority), (.path, p.path),
     (.query, p.query.getD []), (.fragment, p.fragment.getD [])]
  (sizes.find? fun e => maxLength < Text.size e.2).map Prod.fst

/-- The same address with another path and query. -/
def withTarget (u : Url) (target : List Char) : Except Fault Url :=
  let (path, rest) := before ['?'] target
  let (query, _) := cutMarked '?' [] rest
  let p : Parts := ⟨u.scheme, u.authority, path, query, u.fragment⟩
  match p.excess? with
  | some part => .error (.partTooLong part)
  | none => ofParts p

/-- An address that others are asked for under; it ends in a slash. -/
def readBase (text : String) : Except Fault Url :=
  match read text with
  | .error f => .error f
  | .ok u => if u.target.getLast? = some '/' then .ok u else u.withTarget (u.target ++ ['/'])

/-- What a text names under an address. The fragment is that of the address. -/
def under (base : Url) (text : String) : Except Fault Url :=
  match read text with
  | .error f => .error f
  | .ok u => base.withTarget (base.target ++ u.target.dropWhile (· = '/'))

end CommandShell.Url
