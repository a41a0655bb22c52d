import CommandShell.Text.Utf8
import CommandShell.Text.Line
import Mathlib.Data.List.TakeWhile

/-!
Texts that come back from their bytes as they were. A `String` is a text only if its characters hold
code points, as those of every text from outside do.
-/

namespace CommandShell.Text

/-- The characters of some code points. -/
def IsText (cs : List Char) : Prop :=
  ∃ ns : List Nat, (∀ n ∈ ns, n < 0x110000) ∧ ofCodes ns = cs

theorem Code.hold_toNat {c : Char} (h : c.toNat < Code.setAside) : Code.hold c.toNat = [c] := by
  have hp : Code.place? c.toNat = none := by
    simp [Code.place?, Surrogate.isHalf_toNat, h]
  rw [Code.hold, hp]
  simp

/-- A code point is held by a character of its own or by two of those that are set aside. -/
theorem Code.hold_cases {n : Nat} (h : n < 0x110000) :
    (∃ c, Code.hold n = [c] ∧ c.toNat < Code.setAside) ∨
      ∃ c d, Code.hold n = [c, d] ∧ Code.setAside ≤ c.toNat ∧ Code.setAside ≤ d.toNat := by
  cases hp : Code.place? n with
  | none =>
      refine .inl ⟨Char.ofNat n, by rw [Code.hold, hp], ?_⟩
      simp only [Code.place?] at hp
      split at hp
      · contradiction
      · next hh =>
          rw [Code.toNat_ofNat h (by simpa using hh)]
          simpa using hp
  | some k =>
      have hk := (Code.atPlace_of_place? h hp).2
      have hq : k / Code.trails < 2 := (Nat.div_lt_iff_lt_mul (by decide)).2 hk
      have hr : k % Code.trails < Code.trails := Nat.mod_lt _ (by decide)
      refine .inr ⟨_, _, by rw [Code.hold, hp], ?_, ?_⟩
      · rw [Code.toNat_setAside] <;>
          simp only [Code.leads, Code.setAside, Code.trails] at * <;> omega
      · rw [Code.toNat_setAside] <;> simp only [Code.setAside, Code.trails] at * <;> omega

namespace IsText

variable {cs ds : List Char}

theorem codes_lt (h : IsText cs) : ∀ n ∈ codes cs, n < 0x110000 := by
  obtain ⟨ns, hn, rfl⟩ := h
  rwa [codes_ofCodes hn]

theorem ofCodes_codes (h : IsText cs) : ofCodes (codes cs) = cs := by
  obtain ⟨ns, hn, rfl⟩ := h
  rw [codes_ofCodes hn]

theorem append (h : IsText cs) (h' : IsText ds) : IsText (cs ++ ds) := by
  obtain ⟨ns, hn, rfl⟩ := h
  obtain ⟨ms, hm, rfl⟩ := h'
  refine ⟨ns ++ ms, fun n hmem => ?_, List.flatMap_append⟩
  exact (List.mem_append.1 hmem).elim (hn n) (hm n)

/-- Characters before those that are set aside hold themselves. -/
theorem of_forall (h : ∀ c ∈ cs, c.toNat < Code.setAside) : IsText cs := by
  refine ⟨cs.map Char.toNat, fun n hn => ?_, ?_⟩
  · obtain ⟨c, hc, rfl⟩ := List.mem_map.1 hn
    have hlt := h c hc
    simp only [Code.setAside] at hlt
    omega
  · induction cs with
    | nil => rfl
    | cons c rest ih =>
        have hr := ih fun d hd => h d (List.mem_cons_of_mem _ hd)
        rw [List.map_cons, ofCodes, List.flatMap_cons, Code.hold_toNat (h c List.mem_cons_self)]
        exact congrArg _ hr

/-- Characters may be replaced by texts as long as those that are set aside stay. -/
theorem of_all {s : String} (h : s.toList.all (fun c => c.toNat < Code.setAside) = true) :
    IsText s.toList :=
  of_forall fun c hc => of_decide_eq_true (List.all_eq_true.mp h c hc)

theorem flatMap (h : IsText cs) {f : Char → List Char}
    (hs : ∀ c, Code.setAside ≤ c.toNat → f c = [c])
    (hf : ∀ c, c.toNat < Code.setAside → IsText (f c)) : IsText (cs.flatMap f) := by
  obtain ⟨ns, hn, rfl⟩ := h
  induction ns with
  | nil => exact ⟨[], by simp, rfl⟩
  | cons n rest ih =>
      have hr := ih fun m hm => hn m (List.mem_cons_of_mem _ hm)
      have hlt := hn n List.mem_cons_self
      rw [ofCodes, List.flatMap_cons, List.flatMap_append]
      refine append ?_ hr
      obtain ⟨c, hc, hlow⟩ | ⟨c, d, hcd, hc, hd⟩ := Code.hold_cases hlt
      · rw [hc, List.flatMap_singleton]
        exact hf c hlow
      · have hsame : (Code.hold n).flatMap f = Code.hold n := by
          simp [hcd, hs c hc, hs d hd]
        rw [hsame]
        exact ⟨[n], by simpa using hlt, by simp [ofCodes]⟩

end IsText

/-- What is before and what is behind a character that is not set aside are texts. -/
theorem IsText.of_cut {before after : List Char} {c : Char} (hc : c.toNat < Code.setAside)
    (h : IsText (before ++ c :: after)) : IsText before ∧ IsText after := by
  obtain ⟨ns, hn, hs⟩ := h
  induction ns generalizing before with
  | nil => simp [ofCodes] at hs
  | cons n rest ih =>
      rw [List.forall_mem_cons] at hn
      have hr : IsText (ofCodes rest) := ⟨rest, hn.2, rfl⟩
      have hhold : IsText (Code.hold n) := ⟨[n], by simpa using hn.1, by simp [ofCodes]⟩
      rw [ofCodes, List.flatMap_cons] at hs
      obtain ⟨d, hd, -⟩ | ⟨d, e, hd, hd', he⟩ := Code.hold_cases hn.1
      · rw [hd, List.singleton_append] at hs
        cases before with
        | nil =>
            cases hs
            exact ⟨⟨[], by simp, rfl⟩, hr⟩
        | cons b before =>
            obtain ⟨rfl, ht⟩ := List.cons.inj hs
            have hi := ih hn.2 ht
            rw [hd] at hhold
            exact ⟨hhold.append hi.1, hi.2⟩
      · rw [hd, List.cons_append, List.singleton_append] at hs
        -- Neither of the two characters that hold a code point together is the one in between.
        cases before with
        | nil =>
            cases hs
            exact absurd hc (Nat.not_lt.mpr hd')
        | cons b before =>
            obtain ⟨rfl, ht⟩ := List.cons.inj hs
            cases before with
            | nil =>
                cases ht
                exact absurd hc (Nat.not_lt.mpr he)
            | cons b' before =>
                obtain ⟨rfl, ht'⟩ := List.cons.inj ht
                have hi := ih hn.2 ht'
                rw [hd] at hhold
                exact ⟨hhold.append hi.1, hi.2⟩

/-- A text that does not change when it is read with all line ends as newlines. -/
def Unaltered (cs : List Char) : Prop :=
  IsText cs ∧ '\r' ∉ cs

theorem Unaltered.append {cs ds : List Char} (h : Unaltered cs) (h' : Unaltered ds) :
    Unaltered (cs ++ ds) :=
  ⟨h.1.append h'.1, by simp [h.2, h'.2]⟩

theorem Unaltered.of_ascii {cs : List Char} (h : ∀ c ∈ cs, c.toNat < 0x80 ∧ c ≠ '\r') :
    Unaltered cs := by
  refine ⟨.of_forall fun c hc => ?_, fun hr => (h _ hr).2 rfl⟩
  have hlt := (h c hc).1
  simp only [Code.setAside]
  omega

/-! ## Bytes -/

theorem EncodeFault.ofRun_eq_none {start : Nat} {run : List Nat} (h : ofRun start run = none) :
    run = [] := by
  cases run with
  | nil => rfl
  | cons n rest => contradiction

theorem EncodeFault.not_lacked {isLacked : Nat → Bool} {ns : List Nat}
    (h : findFirst? isLacked ns = none) : ∀ n ∈ ns, isLacked n = false := by
  replace h := ofRun_eq_none h
  induction ns with
  | nil => simp
  | cons n rest ih =>
      cases hn : isLacked n with
      | true => simp [hn] at h
      | false =>
          simp only [List.takeWhile_cons, hn, Bool.not_false, if_true, List.length_cons,
            List.drop_succ_cons] at h
          exact List.forall_mem_cons.2 ⟨hn, ih h⟩

theorem EncodeFault.findFirst?_eq_none {isLacked : Nat → Bool} {ns : List Nat} :
    findFirst? isLacked ns = none ↔ ∀ n ∈ ns, isLacked n = false :=
  ⟨not_lacked, findFirst?_of_forall⟩

theorem codes_append {cs : List Char} (h : IsText cs) (ds : List Char) :
    codes (cs ++ ds) = codes cs ++ codes ds := by
  obtain ⟨ns, hn, rfl⟩ := h
  rw [codes_ofCodes hn]
  induction ns with
  | nil => rfl
  | cons n rest ih =>
      rw [List.forall_mem_cons] at hn
      rw [ofCodes, List.flatMap_cons, List.append_assoc, codes_hold_append hn.1]
      exact congrArg _ (ih hn.2)

theorem IsText.codes_cut {before after : List Char} {c : Char} (hc : c.toNat < Code.setAside)
    (h : IsText (before ++ c :: after)) :
    codes (before ++ c :: after) = codes before ++ c.toNat :: codes after := by
  have hs : IsText [c] := .of_forall (by simpa using hc)
  rw [codes_append (h.of_cut hc).1, ← List.singleton_append, codes_append hs]
  rfl

theorem Code.le_ofPair (c d : Char) : 0xD800 ≤ ofPair c d := by
  rw [ofPair, atPlace]
  split
  · exact Nat.le_add_right _ _
  · exact Nat.le_add_right_of_le (by decide)

/-- A code point below the halves is held by its own character, wherever it stands. -/
theorem exists_of_codes_eq {cs : List Char} {c : Char} {ns ms : List Nat} (hc : c.toNat < 0xD800)
    (h : codes cs = ns ++ c.toNat :: ms) :
    ∃ before after, cs = before ++ c :: after ∧ codes before = ns ∧ codes after = ms := by
  induction cs using codes.induct generalizing ns with
  | case1 => simp [codes] at h
  | case2 d =>
      cases ns with
      | nil =>
          obtain ⟨hd, rfl⟩ := List.cons.inj h
          exact ⟨[], [], by rw [Char.toNat_inj.mp hd]; rfl, rfl, rfl⟩
      | cons n ns => simp [codes] at h
  | case3 d e rest hl ih =>
      rw [codes, if_pos hl] at h
      cases ns with
      | nil =>
          have hle := Code.le_ofPair d e
          rw [(List.cons.inj h).1] at hle
          omega
      | cons n ns =>
          obtain ⟨hn, ht⟩ := List.cons.inj h
          obtain ⟨before, after, rfl, hb, ha⟩ := ih ht
          exact ⟨d :: e :: before, after, rfl, by rw [codes, if_pos hl, hb, hn], ha⟩
  | case4 d e rest hl ih =>
      rw [codes, if_neg hl] at h
      cases ns with
      | nil =>
          obtain ⟨hd, ht⟩ := List.cons.inj h
          exact ⟨[], e :: rest, by rw [Char.toNat_inj.mp hd]; rfl, rfl, ht⟩
      | cons n ns =>
          obtain ⟨hn, ht⟩ := List.cons.inj h
          obtain ⟨before, after, he, hb, ha⟩ := ih ht
          refine ⟨d :: before, after, by rw [he]; rfl, ?_, ha⟩
          cases before with
          | nil => rw [← hb, ← hn]; rfl
          | cons b before =>
              obtain ⟨rfl, -⟩ := List.cons.inj he
              rw [codes, if_neg hl, hb, hn]

/-- Two texts have an encoding together if each of them has one. -/
theorem EncodeFault.find?_append {cs : List Char} (h : IsText cs) (ds : List Char) :
    find? (cs ++ ds) = none ↔ find? cs = none ∧ find? ds = none := by
  simp only [find?, findFirst?_eq_none, codes_append h, List.forall_mem_append]

theorem bytes_append {s : String} (h : IsText s.toList) (t : String) :
    bytes (s ++ t) = bytes s ++ bytes t := by
  have hp : toPlain (s ++ t) = toPlain s ++ toPlain t := by
    rw [toPlain, toPlain, toPlain, String.toList_append, codes_append h, List.map_append,
      String.ofList_append]
  rw [bytes, bytes, bytes, hp, String.toUTF8_eq_toByteArray, String.toUTF8_eq_toByteArray,
    String.toUTF8_eq_toByteArray, String.toByteArray_append]

theorem ofPlain_toPlain {s : String} (h : IsText s.toList)
    (hh : ∀ n ∈ codes s.toList, Surrogate.isHalf n = false) : ofPlain (toPlain s) = s := by
  have hc : (codes s.toList).map
      (Char.toNat ∘ fun n => if Surrogate.isHalf n then replacement else Char.ofNat n)
        = (codes s.toList).map id := by
    refine List.map_congr_left fun n hn => ?_
    have hn' := hh n hn
    simp only [Function.comp_apply, hn', Bool.false_eq_true, if_false, id]
    exact Code.toNat_ofNat (h.codes_lt n hn) hn'
  rw [ofPlain, toPlain, String.toList_ofList, List.map_map, hc, List.map_id, h.ofCodes_codes,
    String.ofList_toList]

theorem fromUTF8?_toUTF8 (s : String) : String.fromUTF8? s.toUTF8 = some s := by
  rw [String.fromUTF8?, String.toUTF8_eq_toByteArray, dif_pos s.isValidUTF8]
  rfl

/-- What has an encoding is read back from its bytes. -/
theorem Utf8.decode_bytes {s : String} (h : IsText s.toList)
    (he : EncodeFault.find? s.toList = none) : Utf8.decode (bytes s) = .ok s := by
  have hs : ofPlain (toPlain s) = s := ofPlain_toPlain h (EncodeFault.not_lacked he)
  simp only [Utf8.decode, bytes, fromUTF8?_toUTF8, hs]

theorem Chars.unifyNewlines_eq_self {cs : List Char} (h : '\r' ∉ cs) :
    Chars.unifyNewlines cs = cs := by
  fun_induction Chars.unifyNewlines cs with
  | case1 => rfl
  | case2 rest ih => simp at h
  | case3 c rest _ ih =>
      have hc : c ≠ '\r' := fun he => h (he ▸ List.mem_cons_self)
      rw [if_neg hc, ih fun hm => h (List.mem_cons_of_mem _ hm)]

end CommandShell.Text
