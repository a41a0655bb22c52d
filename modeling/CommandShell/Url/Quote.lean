import CommandShell.Text.Quoted

/-!
Text inside addresses. Characters that a part of an address cannot hold are written as the bytes of
their encoding, each as a percent sign with two digits. Percent signs themselves stay.
-/

namespace CommandShell.Url

/-- Whether a character is printable ASCII other than some. -/
def isPlainExcept (excluded : List Char) (c : Char) : Bool :=
  0x20 < c.toNat && c.toNat < 0x7F && !excluded.contains c

def isFragmentChar : Char → Bool :=
  isPlainExcept ['"', '<', '>', '`']

def isQueryChar : Char → Bool :=
  isPlainExcept ['"', '#', '<', '>']

def isPathChar : Char → Bool :=
  isPlainExcept ['"', '#', '<', '>', '?', '`', '\x7b', '\x7d']

def isUserChar : Char → Bool :=
  isPlainExcept
    ['"', '#', '<', '>', '?', '`', '\x7b', '\x7d', '/', ';', '=', '@', '[', '\\', ']', '^', '|']

def isHostChar : Char → Bool :=
  isPlainExcept ['#', '/', ':', '<', '>', '?', '@', '[', ']', '^']

def upperHex (n : Nat) : List Char :=
  (Text.hex 2 n).map Char.toUpper

/-- A character as the bytes of its encoding. -/
def percent (c : Char) : List Char :=
  (String.singleton c).toUTF8.toList.flatMap fun b => '%' :: upperHex b.toNat

def quoteChar (isAllowed : Char → Bool) (c : Char) : List Char :=
  if isAllowed c then [c] else percent c

/-- Writes a text with the characters that a part may hold. -/
def quote (isAllowed : Char → Bool) (cs : List Char) : Except Text.EncodeFault (List Char) :=
  let ns := Text.codes cs
  match ns.find? Text.Surrogate.isHalf with
  | some n => .error ⟨n, 0, 1⟩
  | none => .ok (ns.flatMap fun n => quoteChar isAllowed (Char.ofNat n))

end CommandShell.Url
