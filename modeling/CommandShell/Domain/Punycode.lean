/-!
Characters written with lower-case letters, digits and hyphens alone. The plain characters come
first; after a hyphen, numbers say which others are put in, in the order of their code points, and
where.
-/

namespace CommandShell.Domain.Punycode

def isPlain (n : Nat) : Bool :=
  n < 0x80

def firstCode : Nat := 0x80

def firstBias : Nat := 72

/-- The least value of the digit at a place that does not end a number. -/
def threshold (place bias : Nat) : Nat :=
  min 26 (max 1 (place - bias))

theorem threshold_pos (place bias : Nat) : 1 ≤ threshold place bias := by
  unfold threshold
  omega

/-- Scales a distance down; the second number counts the steps. -/
def scale (distance steps : Nat) : Nat × Nat :=
  if 455 < distance then scale (distance / 35) (steps + 1) else (distance, steps)
termination_by distance
decreasing_by exact Nat.div_lt_self (by omega) (by omega)

/-- The bias after a number, for a text of some characters. -/
def adapt (distance count : Nat) (isFirst : Bool) : Nat :=
  let d := if isFirst then distance / 700 else distance / 2
  let (d, steps) := scale (d + d / count) 0
  36 * steps + 36 * d / (d + 38)

/-! ## Writing -/

/-- Letters stand for the digits up to 25, and the decimal digits for those from 26. -/
def digit (d : Nat) : Char :=
  Char.ofNat (if d < 26 then 'a'.toNat + d else '0'.toNat + (d - 26))

def writeNumber (bias place n : Nat) : List Char :=
  if n < threshold place bias then [digit n]
  else
    let left := n - threshold place bias
    let base := 36 - threshold place bias
    digit (threshold place bias + left % base) :: writeNumber bias (place + 36) (left / base)
termination_by n
decreasing_by
  have h := threshold_pos place bias
  exact Nat.lt_of_le_of_lt (Nat.div_le_self _ _) (by omega)

/-- The state of a writer: how far it has come since the last number, how many characters the
reader has by then, and the numbers so far. -/
structure Progress where
  distance : Nat
  bias : Nat
  count : Nat
  isFirst : Bool
  written : List Char

/-- Passes a code point while those equal to `next` are put in. -/
def Progress.pass (next : Nat) (s : Progress) (n : Nat) : Progress :=
  if n < next then { s with distance := s.distance + 1 }
  else if n = next then
    { distance := 0
      bias := adapt s.distance (s.count + 1) s.isFirst
      count := s.count + 1
      isFirst := false
      written := s.written ++ writeNumber s.bias 36 s.distance }
  else s

/-- Puts in the code points of a sorted list, after all below `reached`. -/
def writeFrom (codes : List Nat) : Nat → List Nat → Progress → Progress
  | _, [], s => s
  | reached, next :: rest, s =>
      let s := { s with distance := s.distance + (next - reached) * (s.count + 1) }
      let s := codes.foldl (Progress.pass next) s
      writeFrom codes (next + 1) rest { s with distance := s.distance + 1 }

def encode (codes : List Nat) : List Char :=
  let plain := codes.filter isPlain
  let others := (codes.filter fun n => !isPlain n).mergeSort.eraseDups
  let s := writeFrom codes firstCode others ⟨0, firstBias, plain.length, true, []⟩
  if plain.isEmpty then s.written else plain.map Char.ofNat ++ '-' :: s.written

/-! ## Reading -/

/-- The value of a digit; large and small letters are the same. -/
def value? (c : Char) : Option Nat :=
  if 'a' ≤ c ∧ c ≤ 'z' then some (c.toNat - 'a'.toNat)
  else if 'A' ≤ c ∧ c ≤ 'Z' then some (c.toNat - 'A'.toNat)
  else if '0' ≤ c ∧ c ≤ '9' then some (c.toNat - '0'.toNat + 26)
  else none

/-- The number at the head of a text, and the text after it. -/
def readNumber (bias : Nat) : Nat → Nat → Nat → List Char → Option (Nat × List Char)
  | _, _, _, [] => none
  | place, weight, sum, c :: rest =>
      match value? c with
      | none => none
      | some d =>
          if d < threshold place bias then some (sum + d * weight, rest)
          else
            readNumber bias (place + 36) (weight * (36 - threshold place bias)) (sum + d * weight)
              rest

theorem readNumber_length {bias place weight sum n : Nat} {cs rest : List Char}
    (h : readNumber bias place weight sum cs = some (n, rest)) : rest.length < cs.length := by
  induction cs generalizing place weight sum with
  | nil => simp [readNumber] at h
  | cons c tail ih =>
      simp only [readNumber] at h
      split at h
      · simp at h
      · split at h
        · simp only [Option.some.injEq, Prod.mk.injEq] at h
          simp [← h.2]
        · have := ih h
          simp only [List.length_cons]
          omega

/-- Puts in the characters that the numbers name. The last one put in has some code point, and the
next place is given. -/
def readFrom (bias code place : Nat) (isFirst : Bool) (done : List Nat) (cs : List Char) :
    Option (List Nat) :=
  match cs with
  | [] => some done
  | c :: tail =>
      match h : readNumber bias 36 1 0 (c :: tail) with
      | none => none
      | some (distance, rest) =>
          have : rest.length ≤ tail.length := Nat.le_of_lt_succ (readNumber_length h)
          let count := done.length + 1
          let code := code + (place + distance) / count
          let place := (place + distance) % count
          if code < 0x110000 then
            readFrom (adapt distance count isFirst) code (place + 1) false
              (done.take place ++ code :: done.drop place) rest
          else none
termination_by cs.length

/-- The plain characters stand before the last hyphen. -/
def decode (cs : List Char) : Option (List Nat) :=
  let numbers := (cs.reverse.takeWhile (· ≠ '-')).reverse
  let plain := (cs.take (cs.length - numbers.length)).dropLast
  readFrom firstBias firstCode 0 true (plain.map Char.toNat) numbers

end CommandShell.Domain.Punycode
