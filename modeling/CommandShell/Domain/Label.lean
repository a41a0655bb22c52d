import CommandShell.Domain.Direction
import CommandShell.Domain.Joining
import CommandShell.Domain.Mark
import CommandShell.Domain.Punycode
import CommandShell.Domain.Script
import CommandShell.Domain.Valid

/-!
Labels of domain names, by code points. A label of letters from everywhere has to be in normal form
and to hold only characters that may stand where they do; it is then written with plain characters.
-/

namespace CommandShell.Domain

/-! ## Characters that depend on those beside them -/

/-- Whether a letter before, given from the nearest on, joins what follows. -/
def joinsForward : List Nat → Bool
  | [] => false
  | n :: rest =>
      match joiningOf n with
      | .transparent => joinsForward rest
      | .left | .dual => true
      | _ => false

/-- Whether a letter after joins what precedes. -/
def joinsBackward : List Nat → Bool
  | [] => false
  | n :: rest =>
      match joiningOf n with
      | .transparent => joinsBackward rest
      | .right | .dual => true
      | _ => false

def nonJoiner : Nat := 0x200C

def joiner : Nat := 0x200D

/-- Whether a joiner may stand between the characters before it, given from the nearest on, and
those after it. -/
def isJoinerBetween (before : List Nat) (n : Nat) (after : List Nat) : Bool :=
  (before.head?.any fun m => markClass m = viramaClass)
    || (n = nonJoiner && joinsForward before && joinsBackward after)

/-- The ideographs of the Tangut script, which have no names of their own. -/
def isTangutIdeograph (n : Nat) : Bool :=
  (0x17000 ≤ n && n ≤ 0x187F7) || (0x18D00 ≤ n && n ≤ 0x18D08)

/-- Whether a joiner can be judged beside a character: it must not be too new, or without a name. -/
def isNamed (n : Nat) : Bool :=
  directionOf n ≠ .unknown && !isTangutIdeograph n

/-- Checks a joiner between the characters before it, given from the nearest on, and those after
it. -/
def checkJoiner (label before : List Nat) (n : Nat) (after : List Nat) : Except Fault Unit :=
  let position := before.length + 1
  if before.head?.any fun m => !isNamed m then .error (.joinsUnknown n position label)
  else if isJoinerBetween before n after then .ok ()
  else .error (.joinsNothing n position label)

def isBetween (low high n : Nat) : Bool :=
  low ≤ n && n ≤ high

def isArabicDigit : Nat → Bool :=
  isBetween 0x660 0x669

def isExtendedArabicDigit : Nat → Bool :=
  isBetween 0x6F0 0x6F9

/-- The middle dot, the Greek numeral sign, the two Hebrew signs and the dot between Katakana. -/
def dependentSigns : List Nat :=
  [0xB7, 0x375, 0x5F3, 0x5F4, 0x30FB]

/-- The characters that are valid beside some others only. -/
def isDependent (n : Nat) : Bool :=
  dependentSigns.contains n || isArabicDigit n || isExtendedArabicDigit n

/-- Whether a dependent character is valid between those before it, given from the nearest on, and
those after it. -/
def isValidBetween (before : List Nat) (n : Nat) (after : List Nat) : Bool :=
  match n with
  | 0xB7 => before.head? = some 'l'.toNat && after.head? = some 'l'.toNat
  | 0x375 => after.head?.any isGreek
  | 0x5F3 | 0x5F4 => before.head?.any isHebrew
  | 0x30FB => (before ++ after).any isKanaOrHan
  | n =>
      if isArabicDigit n then !(before ++ after).any isExtendedArabicDigit
      else !(before ++ after).any isArabicDigit

/-- Checks a character of a label between those before it, given from the nearest on, and those
after it. -/
def checkCode (label before : List Nat) (n : Nat) (after : List Nat) : Except Fault Unit :=
  let position := before.length + 1
  if isValid n then .ok ()
  else if n = nonJoiner ∨ n = joiner then checkJoiner label before n after
  else if isDependent n then
    if isValidBetween before n after then .ok () else .error (.misplaced n position label)
  else .error (.forbidden n position label)

def checkCodes (label before : List Nat) : List Nat → Except Fault Unit
  | [] => .ok ()
  | n :: rest =>
      match checkCode label before n rest with
      | .error f => .error f
      | .ok () => checkCodes label (n :: before) rest

/-! ## Labels -/

def maxName : Nat := 253

def maxLabel : Nat := 63

def hyphen : Nat := '-'.toNat

/-- Whether code points make a label. -/
def checkLabel (label : List Nat) : Except Fault Unit :=
  if label.isEmpty then .error .empty
  else if maxName + 1 < label.length then .error .tooLong
  else if !isNormal label then .error .notNormal
  else if (label.drop 2).take 2 = [hyphen, hyphen] then .error .innerHyphens
  else if label.head? = some hyphen ∨ label.getLast? = some hyphen then .error .outerHyphen
  else if label.head?.any isMark then .error .firstMark
  else
    match checkCodes label [] label with
    | .error f => .error f
    | .ok () => checkDirections label

/-- The beginning of a label that is encoded. -/
def encodedStart : List Char :=
  ['x', 'n', '-', '-']

/-- The label that has an encoding. Of the encodings that stand for it, only one is its own. -/
def decodeLabel (encoded : List Char) : Except Fault (List Nat) :=
  if encoded.isEmpty then .error .nothingEncoded
  else if encoded.getLast? = some '-' then .error .encodedHyphen
  else
    match Punycode.decode encoded with
    | none => .error .notDecodable
    | some label =>
        if Punycode.encode label = encoded then (checkLabel label).map fun () => label
        else .error .encodedOtherwise

/-- The label that is written with plain characters. -/
def readLabel (cs : List Char) : Except Fault (List Nat) :=
  if encodedStart.isPrefixOf cs then decodeLabel (cs.drop encodedStart.length)
  else
    let label := cs.map Char.toNat
    (checkLabel label).map fun () => label

/-- A label written with plain characters, however long. -/
def writeLong (label : List Nat) : Except Fault (List Char) :=
  if label.all Punycode.isPlain then
    let cs := label.map Char.ofNat
    (readLabel cs).map fun _ => cs
  else (checkLabel label).map fun () => encodedStart ++ Punycode.encode label

/-- A label written with plain characters. -/
def writeLabel (label : List Nat) : Except Fault (List Char) :=
  match writeLong label with
  | .error f => .error f
  | .ok cs => if cs.length ≤ maxLabel then .ok cs else .error .tooLong

end CommandShell.Domain
