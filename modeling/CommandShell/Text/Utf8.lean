import CommandShell.Text.Quoted

/-!
Bytes read as UTF-8 text. Bytes that are no text are reported by the first place where they go
wrong, with the bytes of the unfinished character.
-/

namespace CommandShell.Text.Utf8

inductive Reason
  | invalidStart
  | invalidContinuation
  | unexpectedEnd
  deriving DecidableEq, Repr

/-- The bytes from `start` that form no character: the first of them, and their number. -/
structure Fault where
  byte : UInt8
  start : Nat
  count : Nat
  reason : Reason
  deriving DecidableEq, Repr

/-- A character that is still short of `owed` bytes; the next one lies between `low` and `high`. -/
structure Unfinished where
  first : UInt8
  start : Nat
  seen : Nat
  owed : Nat
  low : UInt8
  high : UInt8

/-- For a first byte, the number of bytes that follow and the range of the next one. -/
def lead (b : UInt8) : Option (Nat × UInt8 × UInt8) :=
  if b < 0x80 then some (0, 0, 0)
  else if b < 0xC2 then none
  else if b < 0xE0 then some (1, 0x80, 0xBF)
  else if b = 0xE0 then some (2, 0xA0, 0xBF)
  else if b = 0xED then some (2, 0x80, 0x9F)
  else if b < 0xF0 then some (2, 0x80, 0xBF)
  else if b = 0xF0 then some (3, 0x90, 0xBF)
  else if b < 0xF4 then some (3, 0x80, 0xBF)
  else if b = 0xF4 then some (3, 0x80, 0x8F)
  else none

def faultFrom : Option Unfinished → Nat → List UInt8 → Option Fault
  | none, _, [] => none
  | some u, _, [] => some ⟨u.first, u.start, u.seen, .unexpectedEnd⟩
  | none, pos, b :: rest =>
      match lead b with
      | none => some ⟨b, pos, 1, .invalidStart⟩
      | some (0, _, _) => faultFrom none (pos + 1) rest
      | some (owed + 1, low, high) =>
          faultFrom (some ⟨b, pos, 1, owed + 1, low, high⟩) (pos + 1) rest
  | some u, pos, b :: rest =>
      if u.low ≤ b ∧ b ≤ u.high then
        faultFrom
          (if u.owed ≤ 1 then none
          else some { u with seen := u.seen + 1, owed := u.owed - 1, low := 0x80, high := 0xBF })
          (pos + 1) rest
      else some ⟨u.first, u.start, u.seen, .invalidContinuation⟩

/-- The first fault of a byte sequence. -/
def fault? (bytes : ByteArray) : Option Fault :=
  faultFrom none 0 bytes.toList

def decode (bytes : ByteArray) : Except Fault String :=
  match String.fromUTF8? bytes with
  | some s => .ok (ofPlain s)
  | none => .error ((fault? bytes).getD ⟨0, 0, 0, .unexpectedEnd⟩)

def Reason.message : Reason → String
  | .invalidStart => "invalid start byte"
  | .invalidContinuation => "invalid continuation byte"
  | .unexpectedEnd => "unexpected end of data"

def Fault.message (f : Fault) : String :=
  let place :=
    if f.count = 1 then s!"byte 0x{String.ofList (hex 2 f.byte.toNat)} in position {f.start}"
    else s!"bytes in position {f.start}-{f.start + f.count - 1}"
  s!"'utf-8' codec can't decode {place}: {f.reason.message}"

end CommandShell.Text.Utf8
