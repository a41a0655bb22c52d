import CommandShell.Text.Blank

/-!
A line cut into statements. The separator counts everywhere except inside a substitution; quotes
and backslashes do not protect it.
-/

namespace CommandShell.Syntax

namespace Statement

/-- Puts characters before the first of the pieces. -/
def prepend (cs : List Char) : List (List Char) → List (List Char)
  | [] => [cs]
  | piece :: rest => (cs ++ piece) :: rest

/-- The raw pieces of a line read at a depth of open substitutions. The separator is one code point,
so one character or two. -/
def pieces (separator : List Char) : Nat → List Char → List (List Char)
  | _, [] => [[]]
  | depth, '$' :: '(' :: rest => prepend ['$', '('] (pieces separator (depth + 1) rest)
  | 0, [c] => if separator = [c] then [[], []] else [[c]]
  | 0, c :: d :: rest =>
      if separator = [c, d] then [] :: pieces separator 0 rest
      else if separator = [c] then [] :: pieces separator 0 (d :: rest)
      else prepend [c] (pieces separator 0 (d :: rest))
  | depth + 1, c :: rest =>
      prepend [c] (pieces separator (if c = ')' then depth else depth + 1) rest)

/-- A separator of one character is looked for character by character. -/
theorem pieces_cons {s c : Char} {rest : List Char} (h : ¬(c = '$' ∧ rest.head? = some '(')) :
    pieces [s] 0 (c :: rest)
      = if c = s then [] :: pieces [s] 0 rest else prepend [c] (pieces [s] 0 rest) := by
  cases rest with
  | nil => by_cases hs : s = c <;> simp [pieces, prepend, hs, eq_comm]
  | cons d rest =>
      rw [pieces.eq_4]
      · by_cases hs : s = c <;> simp [hs, eq_comm]
      · intro h1 h2
        simp [h1, h2] at h

end Statement

/-- The statements of a line, trimmed; blank ones are dropped. -/
def statements (separator : List Char) (cs : List Char) : List (List Char) :=
  ((Statement.pieces separator 0 cs).map Text.Chars.trim).filter (· ≠ [])

def splitStatements (line : String) : List String :=
  (statements [';'] line.toList).map String.ofList

end CommandShell.Syntax
