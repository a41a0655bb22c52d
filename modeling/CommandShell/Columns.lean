import CommandShell.Text.Blank
import CommandShell.Text.Pad

/-! Entries set in columns, read downwards first. -/

namespace CommandShell.Columns

/-- The measures of a layout: the width of a column, and how many columns and rows there are. -/
structure Grid where
  cell : Nat
  columns : Nat
  rows : Nat
  deriving DecidableEq, Repr

def longest (entries : List String) : Nat :=
  (entries.map Text.length).foldl max 0

/-- Each column is two characters wider than the longest entry. There are as many columns as fit,
and at least one. -/
def grid (entries : List String) (width : Int) : Grid :=
  let cell := longest entries + 2
  let columns := (max 1 (width / (cell : Int))).toNat
  ⟨cell, columns, (entries.length + columns - 1) / columns⟩

/-- The entries that stand on a line. -/
def Grid.cells (g : Grid) (entries : List String) (row : Nat) : List String :=
  (List.range g.columns).filterMap fun column => entries[row + column * g.rows]?

def Grid.line (g : Grid) (entries : List String) (row : Nat) : String :=
  String.ofList (Text.Chars.trimRight
    ((g.cells entries row).flatMap fun c => (Text.padRight g.cell c).toList))

def layOut (entries : List String) (width : Int) : List String :=
  if entries.isEmpty then []
  else
    let g := grid entries width
    (List.range g.rows).map (g.line entries)

end CommandShell.Columns
