import CommandShell.Text.Printable
import CommandShell.Text.Encode

/-! Texts in quotes, as they stand inside messages and inside lists. -/

namespace CommandShell.Text

/-- The hexadecimal digits of a number, filled with zeros to a width. -/
def hex (width n : Nat) : List Char :=
  let digits := Nat.toDigits 16 n
  List.replicate (width - digits.length) '0' ++ digits

namespace Quoted

/-- Double quotes are used only around a text that holds an apostrophe and no double quote. -/
def mark (ns : List Nat) : Char :=
  if ns.contains '\''.toNat && !ns.contains '"'.toNat then '"' else '\''

def byCode (n : Nat) : List Char :=
  if n < 0x100 then '\\' :: 'x' :: hex 2 n
  else if n < 0x10000 then '\\' :: 'u' :: hex 4 n
  else '\\' :: 'U' :: hex 8 n

def escape (mark : Char) (n : Nat) : List Char :=
  if n = '\\'.toNat ∨ n = mark.toNat then ['\\', Char.ofNat n]
  else if n = '\n'.toNat then ['\\', 'n']
  else if n = '\r'.toNat then ['\\', 'r']
  else if n = '\t'.toNat then ['\\', 't']
  else if isPrintable n then [Char.ofNat n]
  else byCode n

end Quoted

/-- Code points in quotes. -/
def quotedCodes (ns : List Nat) : String :=
  let m := Quoted.mark ns
  String.ofList (m :: ns.flatMap (Quoted.escape m) ++ [m])

def quoted (s : String) : String :=
  quotedCodes (codes s.toList)

namespace EncodeFault

/-- One character is shown by its code. -/
def place (f : EncodeFault) : String :=
  if f.count = 1 then
    "character '" ++ String.ofList (Quoted.byCode f.code) ++ s!"' in position {f.start}"
  else s!"characters in position {f.start}-{f.start + f.count - 1}"

def message (f : EncodeFault) : String :=
  s!"'utf-8' codec can't encode {f.place}: surrogates not allowed"

/-- What is said where the text should have been ASCII. -/
def asciiMessage (f : EncodeFault) : String :=
  s!"'ascii' codec can't encode {f.place}: ordinal not in range(128)"

end EncodeFault

end CommandShell.Text
