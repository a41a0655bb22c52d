import CommandShell.Text.Surrogate

/-!
Texts as sequences of code points, in which half of a surrogate pair can stand as well. A text is a
`String` all the same: almost every code point is held by its own character. The last characters
are set aside, and two of them together, a lead and a trail, hold a half or one of those that are
set aside. No lead is a trail too, so what holds one code point is never found across two others.
Main statement: `codes_ofCodes`.
-/

namespace CommandShell.Text

namespace Code

/-- How many trails there are. -/
def trails : Nat := 2050

/-- The first of the characters that are set aside; the trails begin here. -/
def setAside : Nat := 0x10F7FC

/-- The first of the two leads, which follow the trails. -/
def leads : Nat := setAside + trails

/-- How many halves there are. -/
def halves : Nat := 0x800

/-- The place of a code point among those that take two characters. -/
def place? (n : Nat) : Option Nat :=
  if Surrogate.isHalf n then some (n - 0xD800)
  else if setAside ≤ n then some (n - setAside + halves)
  else none

/-- The code point at a place. -/
def atPlace (k : Nat) : Nat :=
  if k < halves then 0xD800 + k else setAside + (k - halves)

/-- The characters that hold a code point. -/
def hold (n : Nat) : List Char :=
  match place? n with
  | none => [Char.ofNat n]
  | some k => [Char.ofNat (leads + k / trails), Char.ofNat (setAside + k % trails)]

/-- Whether a character holds a code point only with the next one. -/
def isLead (c : Char) : Bool :=
  leads ≤ c.toNat

/-- The code point that a lead and a trail hold. -/
def ofPair (c d : Char) : Nat :=
  atPlace ((c.toNat - leads) * trails + (d.toNat - setAside))

end Code

/-- The code points of a text. -/
def codes : List Char → List Nat
  | [] => []
  | [c] => [c.toNat]
  | c :: d :: rest =>
      if Code.isLead c then Code.ofPair c d :: codes rest else c.toNat :: codes (d :: rest)

/-- The text of code points. -/
def ofCodes (ns : List Nat) : List Char :=
  ns.flatMap Code.hold

namespace Code

theorem toNat_ofNat {n : Nat} (h : n < 0x110000) (hn : Surrogate.isHalf n = false) :
    (Char.ofNat n).toNat = n := by
  have hv : n.isValidChar := by
    simp only [Surrogate.isHalf, Surrogate.isHigh, Surrogate.isLow, Bool.or_eq_false_iff,
      Bool.and_eq_false_iff, decide_eq_false_iff_not] at hn
    simp only [Nat.isValidChar]
    omega
  rw [Char.ofNat, dif_pos hv]
  rfl

theorem toNat_setAside {n : Nat} (h : n < 0x110000) (hn : setAside ≤ n) :
    (Char.ofNat n).toNat = n := by
  refine toNat_ofNat h ?_
  simp only [setAside] at hn
  simp only [Surrogate.isHalf, Surrogate.isHigh, Surrogate.isLow, Bool.or_eq_false_iff,
    Bool.and_eq_false_iff, decide_eq_false_iff_not]
  omega

theorem atPlace_of_place? {n k : Nat} (h : n < 0x110000) (hk : place? n = some k) :
    atPlace k = n ∧ k < 2 * trails := by
  simp only [place?] at hk
  split at hk
  · next hh =>
      simp only [Surrogate.isHalf, Surrogate.isHigh, Surrogate.isLow, Bool.or_eq_true,
        Bool.and_eq_true, decide_eq_true_eq] at hh
      simp only [Option.some.injEq] at hk
      have hlt : k < halves := by simp only [halves]; omega
      simp only [atPlace, hlt, if_true, trails]
      simp only [halves] at hlt
      omega
  · split at hk
    · next hs =>
        simp only [Option.some.injEq, halves, setAside] at hk hs
        have hle : ¬k < halves := by simp only [halves]; omega
        simp only [atPlace, hle, if_false]
        simp only [trails, halves, setAside] at hle ⊢
        omega
    · simp at hk

end Code

theorem codes_hold_append {n : Nat} (h : n < 0x110000) (cs : List Char) :
    codes (Code.hold n ++ cs) = n :: codes cs := by
  simp only [Code.hold]
  split
  · next hp =>
      simp only [Code.place?] at hp
      split at hp
      · simp at hp
      · next hh =>
          split at hp
          · simp at hp
          · next hs =>
              have ht := Code.toNat_ofNat h (by simpa using hh)
              have hl : Code.isLead (Char.ofNat n) = false := by
                simp only [Code.isLead, ht, Code.leads, decide_eq_false_iff_not]
                omega
              cases cs with
              | nil => simp [codes, ht]
              | cons d rest => simp [codes, ht, hl]
  · next k hp =>
      obtain ⟨hk, hlt⟩ := Code.atPlace_of_place? h hp
      have hq : k / Code.trails < 2 := (Nat.div_lt_iff_lt_mul (by decide)).2 hlt
      have hr : k % Code.trails < Code.trails := Nat.mod_lt _ (by decide)
      have he : k / Code.trails * Code.trails + k % Code.trails = k := Nat.div_add_mod' k _
      generalize k / Code.trails = q at hq he ⊢
      generalize k % Code.trails = r at hr he ⊢
      have hf : (Char.ofNat (Code.leads + q)).toNat = Code.leads + q :=
        Code.toNat_setAside (by simp only [Code.leads, Code.setAside, Code.trails]; omega)
          (by simp only [Code.leads]; omega)
      have hg : (Char.ofNat (Code.setAside + r)).toNat = Code.setAside + r :=
        Code.toNat_setAside (by simp only [Code.setAside, Code.trails] at hr ⊢; omega) (by omega)
      have hl : Code.isLead (Char.ofNat (Code.leads + q)) = true := by
        simp only [Code.isLead, hf, decide_eq_true_eq]
        omega
      simp only [List.cons_append, List.nil_append, codes, hl, if_true, Code.ofPair, hf, hg,
        Nat.add_sub_cancel_left, he, hk]

theorem codes_ofCodes {ns : List Nat} (h : ∀ n ∈ ns, n < 0x110000) : codes (ofCodes ns) = ns := by
  induction ns with
  | nil => rfl
  | cons n rest ih =>
      have hn := h n List.mem_cons_self
      have hr : ∀ m ∈ rest, m < 0x110000 := fun m hm => h m (List.mem_cons_of_mem _ hm)
      rw [ofCodes, List.flatMap_cons, codes_hold_append hn]
      exact congrArg _ (ih hr)

/-- Characters that are not set aside hold a code point each. -/
theorem codes_of_forall {cs : List Char} (h : ∀ c ∈ cs, c.toNat < Code.setAside) :
    codes cs = cs.map Char.toNat := by
  induction cs using codes.induct with
  | case1 | case2 => rfl
  | case3 c d rest hl =>
      have hc := h c List.mem_cons_self
      have hle : Code.setAside + Code.trails ≤ c.toNat := of_decide_eq_true hl
      omega
  | case4 c d rest hl ih =>
      rw [codes, if_neg hl, ih fun c hc => h c (List.mem_cons_of_mem _ hc)]
      rfl

/-- The number of code points of some characters. -/
def size (cs : List Char) : Nat :=
  (codes cs).length

/-- The number of code points of a text. -/
def length (s : String) : Nat :=
  size s.toList

/-- A text of characters alone, as it comes from outside. -/
def ofPlain (s : String) : String :=
  String.ofList (ofCodes (s.toList.map Char.toNat))

/-- What stands for a half where only characters are taken. -/
def replacement : Char := '\ufffd'

/-- The characters of a text, as it goes outside. -/
def toPlain (s : String) : String :=
  String.ofList
    ((codes s.toList).map fun n => if Surrogate.isHalf n then replacement else Char.ofNat n)

end CommandShell.Text
