/-! Lines of a text: the ends they may have, and reading every end as a newline. -/

namespace CommandShell.Text

/-- The characters that end a line: the newline, the return, the vertical tab, the form feed, the
three ASCII separators, the next-line control and the two Unicode separators. -/
def isLineEnd (c : Char) : Bool :=
  c ∈ ['\n', '\r', '\x0b', '\x0c', '\x1c', '\x1d', '\x1e', '\u0085', '\u2028', '\u2029']

namespace Chars

/-- A return, alone or before a newline, is read as one newline. -/
def unifyNewlines : List Char → List Char
  | [] => []
  | '\r' :: '\n' :: rest => '\n' :: unifyNewlines rest
  | c :: rest => (if c = '\r' then '\n' else c) :: unifyNewlines rest

/-- The lines of a text. A return before a newline ends one line, and nothing follows the last
end. -/
def lines : List Char → List (List Char)
  | [] => []
  | '\r' :: '\n' :: rest => [] :: lines rest
  | c :: rest =>
      if isLineEnd c then [] :: lines rest
      else
        match lines rest with
        | [] => [[c]]
        | line :: others => (c :: line) :: others

end Chars

def unifyNewlines (s : String) : String :=
  String.ofList (Chars.unifyNewlines s.toList)

def lines (s : String) : List String :=
  (Chars.lines s.toList).map String.ofList

end CommandShell.Text
