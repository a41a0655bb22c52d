/-!
A statement cut into words. A space ends a word outside quotes; either quote opens a span that only
the same quote closes; a backslash takes a quote, a backslash or a space as it is. A word without
characters is none, so quotes around nothing leave no trace.
-/

namespace CommandShell.Syntax

def isEscapable (c : Char) : Bool :=
  c = '"' || c = '\'' || c = '\\' || c = ' '

def isQuote (c : Char) : Bool :=
  c = '\'' || c = '"'

namespace Token

/-- The words of a text whose first word continues one in hand: drops that word if it is empty. -/
def emit : List Char × List (List Char) → List (List Char)
  | ([], later) => later
  | (word, later) => word :: later

/-- Puts a character before the word in hand. -/
def push (c : Char) (r : List Char × List (List Char)) : List Char × List (List Char) :=
  (c :: r.1, r.2)

/-- Reads on inside the quote `open_`, if any: the rest of the word in hand, and the later words. -/
def scan : Option Char → List Char → List Char × List (List Char)
  | _, [] => ([], [])
  | open_, '\\' :: c :: rest =>
      if isEscapable c then push c (scan open_ rest) else push '\\' (scan open_ (c :: rest))
  | none, c :: rest =>
      if isQuote c then scan (some c) rest
      else if c = ' ' then ([], emit (scan none rest))
      else push c (scan none rest)
  | some q, c :: rest =>
      if c = q then scan none rest else push c (scan (some q) rest)

end Token

def words (cs : List Char) : List (List Char) :=
  Token.emit (Token.scan none cs)

/-- The words of a text. -/
def tokenize (s : String) : List String :=
  (words s.toList).map String.ofList

end CommandShell.Syntax
