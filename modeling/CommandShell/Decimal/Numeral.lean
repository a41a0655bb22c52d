import CommandShell.Decimal.Binary

/-! Floating-point numbers read from decimal digits. -/

namespace CommandShell.Decimal

def ofDigits (digits : List Nat) : Nat :=
  digits.foldl (fun n d => 10 * n + d) 0

/-- The number nearest to the digits times a power of ten. Powers that leave the range of the
floating-point numbers are settled without computing them. -/
def toFloat (digits : List Nat) (power : Int) : Float :=
  let significant := digits.dropWhile (· = 0)
  let magnitude : Int := significant.length + power
  if significant.isEmpty ∨ magnitude < -330 then 0.0
  else if magnitude > 310 then 1.0 / 0.0
  else if power < 0 then Float.ofScientific (ofDigits significant) true (-power).toNat
  else Float.ofScientific (ofDigits significant) false power.toNat

end CommandShell.Decimal
