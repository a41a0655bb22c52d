import CommandShell.Url.Fault

/-!
Addresses of resources. Every part is held as it is written: in plain characters, with what they
cannot say as percent signs and digits.
-/

namespace CommandShell

structure Url where
  scheme : List Char
  user : List Char
  host : List Char
  port : Option Int
  path : List Char
  query : Option (List Char)
  fragment : Option (List Char)
  deriving DecidableEq, Repr

namespace Url

/-- The largest number of characters of an address and of each part of one. -/
def maxLength : Nat := 65536

/-- A part with the mark before it, if the part is there at all. -/
def marked (mark : Char) : Option (List Char) → List Char
  | none => []
  | some cs => mark :: cs

/-- A host of groups stands in brackets, so that its colons are no marks. -/
def hostText (u : Url) : List Char :=
  if u.host.contains ':' then '[' :: u.host ++ [']'] else u.host

/-- The user, the host and the port. -/
def authority (u : Url) : List Char :=
  (if u.user.isEmpty then [] else u.user ++ ['@']) ++ u.hostText
    ++ marked ':' (u.port.map fun n => (toString n).toList)

/-- What is asked of the host: the path, at least a slash, and the query. -/
def target (u : Url) : List Char :=
  (if u.path.isEmpty then ['/'] else u.path) ++ marked '?' u.query

def text (u : Url) : String :=
  String.ofList
    ((if u.scheme.isEmpty then [] else u.scheme ++ [':'])
      ++ (if u.authority.isEmpty then [] else '/' :: '/' :: u.authority)
      ++ u.path ++ marked '?' u.query ++ marked '#' u.fragment)

/-- A word that may announce an address and is no part of it. -/
def announcement : List Char :=
  ['U', 'R', 'L', ':']

/-- The text of an address that is looked for, without an announcement and without a mark that no
fragment follows. -/
def sought (u : Url) : List Char :=
  let cs := u.text.toList
  let cs := if announcement.isPrefixOf cs then cs.drop announcement.length else cs
  if cs.getLast? = some '#' then cs.dropLast else cs

/-- Whether that text begins with a word up to a colon, which says how the address is reached. -/
def isReachable (u : Url) : Bool :=
  let word := u.sought.takeWhile fun c => c ≠ '/' && c ≠ ':'
  !word.isEmpty && (u.sought.drop word.length).head? = some ':'

end Url

end CommandShell
