import CommandShell.Decimal.Numeral
import CommandShell.Json.Lexeme
import CommandShell.Text.Split

/-! Hosts that are given by numbers: four decimal ones, or up to eight hexadecimal ones. -/

namespace CommandShell.Url

def isDecimal (c : Char) : Bool :=
  '0' ≤ c && c ≤ '9'

def isHexDigit (c : Char) : Bool :=
  (Json.Lexeme.hexValue? c).isSome

/-! ## Four decimal numbers -/

/-- Whether a host is written as four decimal numbers, whatever they are. -/
def looksFourPart (cs : List Char) : Bool :=
  let parts := Text.splitAt (· = '.') cs
  parts.length = 4 && parts.all fun part => !part.isEmpty && part.all isDecimal

/-- A number up to 255 without leading zeros. -/
def isOctet (cs : List Char) : Bool :=
  !cs.isEmpty && cs.length ≤ 3 && cs.all isDecimal && (cs.length = 1 || cs.head? ≠ some '0')
    && Decimal.ofDigits (cs.map fun c => c.toNat - 48) ≤ 255

def isFourPart (cs : List Char) : Bool :=
  let parts := Text.splitAt (· = '.') cs
  parts.length = 4 && parts.all isOctet

/-! ## Eight hexadecimal numbers -/

def looksBracketed (cs : List Char) : Bool :=
  cs.head? = some '[' && cs.getLast? = some ']' && 2 ≤ cs.length

def isGroup (cs : List Char) : Bool :=
  !cs.isEmpty && cs.length ≤ 4 && cs.all isHexDigit

/-- Two groups in the place of a last part that is written as four decimal numbers. -/
def expandLast (parts : List (List Char)) : Option (List (List Char)) :=
  match parts.getLast? with
  | none => some parts
  | some last =>
      if last.contains '.' then
        if isFourPart last then some (parts.dropLast ++ [['0'], ['0']]) else none
      else some parts

/-- Whether the parts between colons are an address. One empty part inside stands for groups of
zeros, and at an end that it reaches another empty part goes with it. -/
def groupsFit (parts : List (List Char)) : Bool :=
  let inner := (parts.drop 1).dropLast
  let before := (inner.takeWhile fun g => !g.isEmpty).length + 1
  if inner.count [] = 0 then parts.length = 8 && parts.all isGroup
  else if 1 < inner.count [] then false
  else
    let high := parts.take before
    let low := parts.drop (before + 1)
    let high := if high.head? = some [] then high.drop 1 else high
    let highFits := parts.head? ≠ some [] || high.isEmpty
    let lowEnds := low.getLast? = some []
    let low := if lowEnds then low.dropLast else low
    let lowFits := !lowEnds || low.isEmpty
    highFits && lowFits && high.length + low.length < 8 && high.all isGroup && low.all isGroup

/-- Whether a text is an address of eight groups. After a percent sign it may name a zone. -/
def isEightPart (cs : List Char) : Bool :=
  let address := cs.takeWhile (· ≠ '%')
  let zone := cs.drop (address.length + 1)
  let zoneFits := address.length = cs.length || (!zone.isEmpty && !zone.contains '%')
  let parts := Text.splitAt (· = ':') address
  zoneFits && 3 ≤ parts.length
    && (expandLast parts).any fun parts => parts.length ≤ 9 && groupsFit parts

end CommandShell.Url
