import CommandShell.Text.Ranges

/-! Blank characters, trimming, and lines that hold nothing. -/

namespace CommandShell.Text

/-- The white space of the Unicode standard together with the four ASCII separators. -/
def blankRanges : List (Nat × Nat) :=
  [(9, 13), (28, 32), (133, 133), (160, 160), (5760, 5760), (8192, 8202), (8232, 8233),
   (8239, 8239), (8287, 8287), (12288, 12288)]

def isBlank (c : Char) : Bool :=
  inRanges blankRanges c.toNat

namespace Chars

def trimLeft (cs : List Char) : List Char :=
  cs.dropWhile isBlank

def trimRight (cs : List Char) : List Char :=
  (cs.reverse.dropWhile isBlank).reverse

def trim (cs : List Char) : List Char :=
  trimRight (trimLeft cs)

end Chars

def trim (s : String) : String :=
  String.ofList (Chars.trim s.toList)

/-- A text of blanks only, the empty one included. -/
def isBlankText (s : String) : Bool :=
  s.toList.all isBlank

end CommandShell.Text
