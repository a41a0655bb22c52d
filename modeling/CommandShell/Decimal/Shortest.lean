import CommandShell.Decimal.Binary

/-!
The shortest decimal that reads back as a given floating-point number, and among the shortest the
nearest to it.
-/

namespace CommandShell.Decimal

/-- A positive number and the bounds of the reals that round to it, over one denominator. The
bounds themselves round to it iff `closed`. -/
structure Rounding where
  low : Nat
  value : Nat
  high : Nat
  denominator : Nat
  closed : Bool

/-- The reals that round to mantissa · 2 ^ exponent. Just above a power of two the next number
below is only half as far away. -/
def Rounding.of (mantissa : Nat) (exponent : Int) : Rounding :=
  let scale := Nat.pow 2 (exponent - 2).toNat
  let gap := if mantissa = Nat.pow 2 52 ∧ exponent > -1074 then 1 else 2
  { low := (4 * mantissa - gap) * scale
    value := 4 * mantissa * scale
    high := (4 * mantissa + 2) * scale
    denominator := Nat.pow 2 (2 - exponent).toNat
    closed := mantissa % 2 = 0 }

/-- Whether n · 10 ^ k rounds to the number. -/
def Rounding.holds (r : Rounding) (k : Int) (n : Nat) : Bool :=
  let x := n * Nat.pow 10 k.toNat * r.denominator
  let unit := Nat.pow 10 (-k).toNat
  if r.closed then r.low * unit ≤ x && x ≤ r.high * unit
  else r.low * unit < x && x < r.high * unit

/-- The multiple of 10 ^ k that rounds to the number, if there is one: the nearer of its two
neighbours, and the even one if both are equally near. -/
def Rounding.onGrid? (r : Rounding) (k : Int) : Option Nat :=
  let scaled := r.value * Nat.pow 10 (-k).toNat
  let unit := r.denominator * Nat.pow 10 k.toNat
  let n := scaled / unit
  match r.holds k n, r.holds k (n + 1) with
  | true, true =>
      let below := scaled - n * unit
      let above := (n + 1) * unit - scaled
      if below < above ∨ (below = above ∧ n % 2 = 0) then some n else some (n + 1)
  | true, false => some n
  | false, true => some (n + 1)
  | false, false => none

/-- The number of digits before the point; zero or negative for numbers below one tenth. -/
def Rounding.magnitude (r : Rounding) : Int :=
  (Nat.toDigits 10 (r.value * Nat.pow 10 400 / r.denominator)).length - 400

/-- The first grid with a hit, from one digit to seventeen. Seventeen always suffice. -/
def Rounding.search (r : Rounding) (k : Int) : Nat → Nat × Int
  | 0 => (r.value * Nat.pow 10 (-k).toNat / (r.denominator * Nat.pow 10 k.toNat), k)
  | more + 1 =>
      match r.onGrid? k with
      | some n => (n, k)
      | none => r.search (k - 1) more

/-- The digits n and the power k of the shortest decimal n · 10 ^ k of a positive number. -/
def shortest (mantissa : Nat) (exponent : Int) : Nat × Int :=
  let r := Rounding.of mantissa exponent
  r.search (r.magnitude - 1) 17

end CommandShell.Decimal
