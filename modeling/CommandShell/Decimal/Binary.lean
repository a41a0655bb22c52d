/-!
Floating-point numbers as exact values: a sign, a whole mantissa and a power of two.
-/

namespace CommandShell.Decimal

inductive Binary
  | nan
  | infinite (negative : Bool)
  | finite (negative : Bool) (mantissa : Nat) (exponent : Int)
  deriving DecidableEq, Repr

/-- The exact value that a number's bits stand for. -/
def Binary.ofFloat (x : Float) : Binary :=
  let bits : Nat := x.toBits.toNat
  let negative : Bool := bits / Nat.pow 2 63 == 1
  let power : Nat := bits / Nat.pow 2 52 % Nat.pow 2 11
  let fraction : Nat := bits % Nat.pow 2 52
  if power = 2047 then (if fraction = 0 then .infinite negative else .nan)
  else if power = 0 then .finite negative fraction (-1074)
  else .finite negative (fraction + Nat.pow 2 52) (power - 1075)

/-- The whole part, toward zero, of mantissa · 2 ^ exponent. -/
def wholePart (mantissa : Nat) (exponent : Int) : Nat :=
  mantissa * Nat.pow 2 exponent.toNat / Nat.pow 2 (-exponent).toNat

/-- The nearest whole number; of two that are equally near, the even one. -/
def nearestWhole (mantissa : Nat) (exponent : Int) : Nat :=
  let unit := Nat.pow 2 (-exponent).toNat
  let scaled := mantissa * Nat.pow 2 exponent.toNat
  let below := scaled / unit
  let part := 2 * (scaled % unit)
  if unit < part ∨ (part = unit ∧ below % 2 = 1) then below + 1 else below

def isWhole (mantissa : Nat) (exponent : Int) : Bool :=
  mantissa * Nat.pow 2 exponent.toNat % Nat.pow 2 (-exponent).toNat = 0

def signed (negative : Bool) (n : Nat) : Int :=
  if negative then -(n : Int) else n

end CommandShell.Decimal
