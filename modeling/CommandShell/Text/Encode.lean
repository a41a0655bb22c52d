import CommandShell.Text.Code

/-! Texts as bytes in UTF-8, and what keeps a text from being encoded. -/

namespace CommandShell.Text

/-- A run of code points that an encoding lacks: the first of them, its place, and their number. -/
structure EncodeFault where
  code : Nat
  start : Nat
  count : Nat
  deriving DecidableEq, Repr

namespace EncodeFault

/-- The fault of a run at a place. -/
def ofRun (start : Nat) (run : List Nat) : Option EncodeFault :=
  match run with
  | [] => none
  | n :: _ => some ⟨n, start, run.length⟩

/-- The first code points of some kind. -/
def findFirst? (isLacked : Nat → Bool) (ns : List Nat) : Option EncodeFault :=
  let held := ns.takeWhile fun n => !isLacked n
  ofRun held.length ((ns.drop held.length).takeWhile isLacked)

/-- The first surrogates of a text, which keep it from being encoded. -/
def find? (cs : List Char) : Option EncodeFault :=
  findFirst? Surrogate.isHalf (codes cs)

theorem findFirst?_of_forall {isLacked : Nat → Bool} {ns : List Nat}
    (h : ∀ n ∈ ns, isLacked n = false) : findFirst? isLacked ns = none := by
  have htake : ns.takeWhile (fun n => !isLacked n) = ns := by
    induction ns with
    | nil => rfl
    | cons n rest ih =>
        rw [List.takeWhile_cons_of_pos (by simp [h n]), ih fun m hm => h m (by simp [hm])]
  rw [findFirst?, htake, List.drop_length]
  rfl

/-- ASCII has no surrogates. -/
theorem find?_of_ascii {cs : List Char} (h : ∀ c ∈ cs, c.toNat < 0x80) : find? cs = none := by
  have hset : 0x80 < Code.setAside := by decide
  rw [find?, codes_of_forall fun c hc => Nat.lt_trans (h c hc) hset]
  refine findFirst?_of_forall fun n hn => ?_
  obtain ⟨c, -, rfl⟩ := List.mem_map.mp hn
  exact Surrogate.isHalf_toNat c

/-- The first characters of a text beyond ASCII. -/
def findBeyondAscii? (cs : List Char) : Option EncodeFault :=
  findFirst? (0x80 ≤ ·) (codes cs)

/-- The first surrogates from a place on that stand for no byte of a file name, with those that
follow them. -/
def findInName? (start : Nat) : List Nat → Option EncodeFault
  | [] => none
  | n :: rest =>
      if Surrogate.isHalf n && !Surrogate.isByte n then
        ofRun start ((n :: rest).takeWhile Surrogate.isHalf)
      else findInName? (start + 1) rest

end EncodeFault

/-- The bytes of a text. A half has none. -/
def bytes (s : String) : ByteArray :=
  (toPlain s).toUTF8

/-- How many bytes a code point takes in a file name. A half stands for one byte there. -/
def byteCount (n : Nat) : Nat :=
  if n < 0x80 ∨ Surrogate.isHalf n then 1 else if n < 0x800 then 2 else if n < 0x10000 then 3 else 4

/-- How many bytes a file name takes. -/
def nameSize (s : String) : Nat :=
  (codes s.toList).foldr (fun n size => byteCount n + size) 0

end CommandShell.Text
