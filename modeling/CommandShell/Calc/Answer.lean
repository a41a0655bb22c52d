import CommandShell.Calc.Evaluate
import CommandShell.Decimal.Notation
import CommandShell.Decimal.Numeral
import CommandShell.Json.Whole

/-! Expressions over floating-point numbers, and the text of their values. -/

namespace CommandShell.Calc

def floats : Arithmetic Float where
  number n := Decimal.toFloat (n.digits.1 ++ n.digits.2) (-n.digits.2.length)
  add := (· + ·)
  sub := (· - ·)
  mul := (· * ·)
  div := (· / ·)
  neg := (- ·)
  isZero x := x == 0.0

/-- Whole values are written out in full, without a point. -/
def format (x : Float) : Except NumberFault String :=
  match Decimal.Binary.ofFloat x with
  | .nan => .error .notANumber
  | .infinite _ => .error .infinite
  | .finite negative m e =>
      if Decimal.isWhole m e then
        .ok (toString (Decimal.signed negative (Decimal.wholePart m e)))
      else .ok (Decimal.write ⟨"nan", "inf"⟩ x)

end CommandShell.Calc
