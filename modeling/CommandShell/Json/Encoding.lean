import CommandShell.Text.Quoted

/-!
The encoding of JSON text. A JSON text begins with two ASCII characters, so that zeros among its
first bytes tell how wide its units are and which end comes first.
-/

namespace CommandShell.Json

inductive Encoding
  | utf8
  | utf16 (bigEndian : Bool)
  | utf32 (bigEndian : Bool)
  deriving DecidableEq, Repr

namespace Encoding

def detect : List UInt8 → Encoding
  | [a, b] => if a = 0 then utf16 true else if b = 0 then utf16 false else utf8
  | a :: b :: c :: d :: _ =>
      if a = 0 then (if b = 0 then utf32 true else utf16 true)
      else if b = 0 then (if c = 0 ∧ d = 0 then utf32 false else utf16 false)
      else utf8
  | _ => utf8

def name : Encoding → String
  | utf8 => "utf-8"
  | utf16 true => "utf-16-be"
  | utf16 false => "utf-16-le"
  | utf32 true => "utf-32-be"
  | utf32 false => "utf-32-le"

/-- Bytes that make no character. -/
inductive Reason
  | truncated
  | beyondCodes
  deriving DecidableEq, Repr

structure Fault where
  encoding : Encoding
  bytes : List UInt8
  start : Nat
  reason : Reason
  deriving DecidableEq, Repr

def Reason.message : Reason → String
  | truncated => "truncated data"
  | beyondCodes => "code point not in range(0x110000)"

def Fault.message (f : Fault) : String :=
  let place :=
    match f.bytes with
    | [b] => "byte 0x" ++ String.ofList (Text.hex 2 b.toNat) ++ s!" in position {f.start}"
    | bytes => s!"bytes in position {f.start}-{f.start + bytes.length - 1}"
  s!"'{f.encoding.name}' codec can't decode {place}: {f.reason.message}"

/-- Bytes as a number; `bigEndian` says that the first one counts most. -/
def number (bigEndian : Bool) (bytes : List UInt8) : Nat :=
  (if bigEndian then bytes else bytes.reverse).foldl (fun n b => 256 * n + b.toNat) 0

/-- The units of two bytes from a position on. -/
def units16 (bigEndian : Bool) (position : Nat) : List UInt8 → Except Fault (List Nat)
  | [] => .ok []
  | [a] => .error ⟨utf16 bigEndian, [a], position, .truncated⟩
  | a :: b :: rest =>
      (units16 bigEndian (position + 2) rest).map (number bigEndian [a, b] :: ·)

/-- The code points of four bytes from a position on. -/
def units32 (bigEndian : Bool) (position : Nat) : List UInt8 → Except Fault (List Nat)
  | [] => .ok []
  | a :: b :: c :: d :: rest =>
      let n := number bigEndian [a, b, c, d]
      if n < 0x110000 then (units32 bigEndian (position + 4) rest).map (n :: ·)
      else .error ⟨utf32 bigEndian, [a, b, c, d], position, .beyondCodes⟩
  | bytes => .error ⟨utf32 bigEndian, bytes, position, .truncated⟩

/-- The text of a body, which is given as if it were in the first encoding. A mark at its head
that names this encoding is passed over. -/
def decode (body : String) : Except Fault (List Char) :=
  let bytes := (Text.bytes body).toList
  match detect bytes with
  | utf8 => .ok (if body.toList.head? = some '\ufeff' then body.toList.drop 1 else body.toList)
  | utf16 bigEndian =>
      (units16 bigEndian 0 bytes).map fun ns => Text.ofCodes (Text.Surrogate.join ns)
  | utf32 bigEndian => (units32 bigEndian 0 bytes).map Text.ofCodes

end Encoding

end CommandShell.Json
