/-!
Halves of surrogate pairs: code points that are no characters. Two of them in a row stand for a
character together; one that stands alone can be named in a JSON text all the same.
-/

namespace CommandShell.Text.Surrogate

def isHigh (n : Nat) : Bool :=
  0xD800 ≤ n && n < 0xDC00

def isLow (n : Nat) : Bool :=
  0xDC00 ≤ n && n < 0xE000

def isHalf (n : Nat) : Bool :=
  isHigh n || isLow n

theorem isHalf_toNat (c : Char) : isHalf c.toNat = false := by
  have hv : c.toNat < 0xD800 ∨ 0xDFFF < c.toNat ∧ c.toNat < 0x110000 := c.valid
  simp only [isHalf, isHigh, isLow, Bool.or_eq_false_iff, Bool.and_eq_false_iff,
    decide_eq_false_iff_not]
  omega

/-- Surrogates that a byte of a file name may be read as. -/
def isByte (n : Nat) : Bool :=
  0xDC80 ≤ n && n ≤ 0xDCFF

/-- The code point that a high surrogate and a low one after it stand for together. -/
def pair (high low : Nat) : Nat :=
  0x10000 + (high - 0xD800) * 0x400 + (low - 0xDC00)

/-- Units as code points: a high surrogate directly before a low one makes one character. -/
def join : List Nat → List Nat
  | [] => []
  | [n] => [n]
  | n :: m :: rest =>
      if isHigh n && isLow m then pair n m :: join rest else n :: join (m :: rest)

end CommandShell.Text.Surrogate
