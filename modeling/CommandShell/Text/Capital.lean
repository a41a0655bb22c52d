/-! Texts in capitals, as far as the capitals are ASCII letters. -/

namespace CommandShell.Text

/-- The letters outside ASCII with capitals inside it. -/
def foreignCapitals : List (Char × List Char) :=
  [('ß', ['S', 'S']), ('ı', ['I']), ('ſ', ['S']), ('ﬀ', ['F', 'F']), ('ﬁ', ['F', 'I']),
   ('ﬂ', ['F', 'L']), ('ﬃ', ['F', 'F', 'I']), ('ﬄ', ['F', 'F', 'L']), ('ﬅ', ['S', 'T']),
   ('ﬆ', ['S', 'T'])]

def capitals (c : Char) : List Char :=
  (foreignCapitals.lookup c).getD [c.toUpper]

/-- Whether a text has some ASCII capitals. -/
def isInCapitals (s capital : String) : Bool :=
  s.toList.flatMap capitals = capital.toList

end CommandShell.Text
