import CommandShell.Text.Quoted

/-! Why a text is no label of a domain name, and why a name cannot be read. -/

namespace CommandShell.Domain

/-- Labels and their characters are given by code points, since an encoding can name one that is no
character. Positions count from one. -/
inductive Fault
  | nameTooLong
  | empty
  | tooLong
  | notNormal
  | innerHyphens
  | outerHyphen
  | firstMark
  /-- A character that no label may hold. -/
  | forbidden (code position : Nat) (label : List Nat)
  /-- A character that may not stand beside the ones that it stands beside. -/
  | misplaced (code position : Nat) (label : List Nat)
  /-- A joiner that has nothing to join. -/
  | joinsNothing (code position : Nat) (label : List Nat)
  /-- A joiner behind a character that is too new to be known. -/
  | joinsUnknown (code position : Nat) (label : List Nat)
  | noDirection (position : Nat) (label : List Nat)
  | firstDirection (label : List Nat)
  | notRightToLeft (position : Nat)
  | notLeftToRight (position : Nat)
  | mixedDigits
  | lastDirection
  | nothingEncoded
  | encodedHyphen
  | notDecodable
  /-- The label of an encoding has another encoding. -/
  | encodedOtherwise
  deriving DecidableEq, Repr

/-- A code point in four digits or more. -/
def codeText (n : Nat) : String :=
  "U+" ++ String.ofList ((Text.hex 4 n).map Char.toUpper)

def Fault.message : Fault → String
  | nameTooLong => "Domain too long"
  | empty => "Empty Label"
  | tooLong => "Label too long"
  | notNormal => "Label must be in Normalization Form C"
  | innerHyphens => "Label has disallowed hyphens in 3rd and 4th position"
  | outerHyphen => "Label must not start or end with a hyphen"
  | firstMark => "Label begins with an illegal combining character"
  | forbidden code position label =>
      s!"Codepoint {codeText code} at position {position} of " ++ Text.quotedCodes label
        ++ " not allowed"
  | misplaced code position label =>
      s!"Codepoint {codeText code} not allowed at position {position} in " ++ Text.quotedCodes label
  | joinsNothing code position label =>
      s!"Joiner {codeText code} not allowed at position {position} in " ++ Text.quotedCodes label
  | joinsUnknown code position label =>
      s!"Unknown codepoint adjacent to joiner {codeText code} at position {position} in "
        ++ Text.quotedCodes label
  | noDirection position label =>
      "Unknown directionality in label " ++ Text.quotedCodes label ++ s!" at position {position}"
  | firstDirection label =>
      "First codepoint in label " ++ Text.quotedCodes label ++ " must be directionality L, R or AL"
  | notRightToLeft position =>
      s!"Invalid direction for codepoint at position {position} in a right-to-left label"
  | notLeftToRight position =>
      s!"Invalid direction for codepoint at position {position} in a left-to-right label"
  | mixedDigits => "Can not mix numeral types in a right-to-left label"
  | lastDirection => "Label ends with illegal codepoint directionality"
  | nothingEncoded => "Malformed A-label, no Punycode eligible content found"
  | encodedHyphen => "A-label must not end with a hyphen"
  | notDecodable => "Invalid A-label"
  | encodedOtherwise => "A-label is not the canonical Punycode encoding of its U-label"

end CommandShell.Domain
