import CommandShell.Decimal.Shortest

/-! How floating-point numbers are written. -/

namespace CommandShell.Decimal

/-- The names of the values that no digits stand for. -/
structure Names where
  nan : String
  infinity : String

/-- Numbers with their point from three places before the digits to sixteen digits in are written
in full, with at least one digit after the point; the others with an exponent of at least two
digits. -/
def writeDigits (n : Nat) (k : Int) : List Char :=
  let all := Nat.toDigits 10 n
  let digits := (all.reverse.dropWhile (· = '0')).reverse
  let point : Int := all.length + k
  if -4 < point ∧ point ≤ 16 then
    if point ≤ 0 then ['0', '.'] ++ List.replicate (-point).toNat '0' ++ digits
    else
      let p := point.toNat
      if digits.length ≤ p then digits ++ List.replicate (p - digits.length) '0' ++ ['.', '0']
      else digits.take p ++ '.' :: digits.drop p
  else
    let power := (point - 1).natAbs
    let sign := if point - 1 < 0 then '-' else '+'
    let exponent := (if power < 10 then ['0'] else []) ++ Nat.toDigits 10 power
    digits.take 1 ++ (if digits.length ≤ 1 then [] else '.' :: digits.drop 1)
      ++ 'e' :: sign :: exponent

/-- The shortest text that reads back as the number. -/
def write (names : Names) (x : Float) : String :=
  let sign (negative : Bool) : String := if negative then "-" else ""
  match Binary.ofFloat x with
  | .nan => names.nan
  | .infinite negative => sign negative ++ names.infinity
  | .finite negative m e =>
      if m = 0 then sign negative ++ "0.0"
      else
        let (n, k) := shortest m e
        sign negative ++ String.ofList (writeDigits n k)

end CommandShell.Decimal
