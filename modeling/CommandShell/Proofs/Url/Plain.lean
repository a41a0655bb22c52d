import CommandShell.Proofs.Syntax.Trimming
import CommandShell.Proofs.Text.Encoding
import CommandShell.Url.Host

/-!
# Plain paths

Paths of letters, digits and slashes. They are taken into an address as they are, where their length
allows it.
-/

namespace CommandShell.Url

/-- A path of letters, digits and slashes that begins with one slash. -/
structure IsPlain (path : List Char) : Prop where
  chars : ∀ c ∈ path, c.isAlphanum = true ∨ c = '/'
  rooted : path.head? = some '/'
  single : ['/', '/'].isPrefixOf path = false

variable {path : List Char}

theorem plain_char {c : Char} (h : c.isAlphanum = true ∨ c = '/') :
    c.toNat < 0x80 ∧ isPathChar c = true ∧ isControl c = false ∧ c ∉ ['?', '#', '.', '[', ']'] := by
  have hlow : c.toNat < 0x80 := by
    rcases h with h | rfl
    · obtain hletter | hdigit := Bool.or_eq_true_iff.mp h
      · obtain hupper | hlower := Bool.or_eq_true_iff.mp hletter
        · have hle : c.toNat ≤ 'Z'.toNat := (of_decide_eq_true hupper).2
          exact Nat.lt_of_le_of_lt hle (by decide)
        · have hle : c.toNat ≤ 'z'.toNat := of_decide_eq_true (Bool.and_eq_true_iff.mp hlower).2
          exact Nat.lt_of_le_of_lt hle (by decide)
      · have hle : c.toNat ≤ '9'.toNat := of_decide_eq_true (Bool.and_eq_true_iff.mp hdigit).2
        exact Nat.lt_of_le_of_lt hle (by decide)
    · decide
  have hall : ∀ n < 0x80, (Char.ofNat n).isAlphanum = true ∨ Char.ofNat n = '/' →
      isPathChar (Char.ofNat n) = true ∧ isControl (Char.ofNat n) = false ∧
        Char.ofNat n ∉ ['?', '#', '.', '[', ']'] := by
    decide +kernel
  have hc := hall c.toNat hlow
  rw [Char.ofNat_toNat] at hc
  exact ⟨hlow, hc h⟩

namespace IsPlain

variable (h : IsPlain path)
include h

theorem codes_eq : Text.codes path = path.map Char.toNat := by
  refine Text.codes_of_forall fun c hc => ?_
  have := (plain_char (h.chars c hc)).1
  simp only [Text.Code.setAside]
  omega

theorem size_eq : Text.size path = path.length := by
  rw [Text.size, h.codes_eq, List.length_map]

theorem quote_eq : quote isPathChar path = .ok path := by
  have hnone : (path.map Char.toNat).find? Text.Surrogate.isHalf = none := by
    simp [List.find?_eq_none, Text.Surrogate.isHalf_toNat]
  have hsame : ∀ cs : List Char, (∀ c ∈ cs, isPathChar c = true) →
      (cs.map Char.toNat).flatMap (fun n => quoteChar isPathChar (Char.ofNat n)) = cs := by
    intro cs hcs
    induction cs with
    | nil => rfl
    | cons c rest ih =>
        rw [List.map_cons, List.flatMap_cons, ih fun d hd => hcs d (List.mem_cons_of_mem _ hd)]
        simp [quoteChar, hcs c List.mem_cons_self]
  simp only [quote, h.codes_eq, hnone]
  rw [hsame path fun c hc => (plain_char (h.chars c hc)).2.1]

theorem straighten_eq : straighten path = path := by
  have hdot : '.' ∉ path := fun hc => by simpa using (plain_char (h.chars _ hc)).2.2.2
  have hpart : ∀ part ∈ Text.splitAt (· = '/') path, '.' ∉ part := fun part hpart hc =>
    hdot (Syntax.mem_of_mem_splitAt hpart hc)
  rw [straighten, if_neg]
  simp only [Bool.or_eq_true, List.contains_iff_mem, not_or]
  exact ⟨fun hm => hpart _ hm (by simp), fun hm => hpart _ hm (by simp)⟩

/-- A plain path is read into an address as it is, like the root in its place. -/
theorem ofParts_eq (p : Parts) :
    ofParts { p with path } = (ofParts { p with path := ['/'] }).map fun u => { u with path } := by
  have hslash : IsPlain ['/'] := ⟨by simp, rfl, rfl⟩
  have hcheck : ∀ {path}, IsPlain path → ∀ hasScheme hasAuthority,
      checkPath hasScheme hasAuthority path = .ok () := by
    intro path h hasScheme hasAuthority
    simp [checkPath, h.rooted, h.single]
  simp only [ofParts, bind, Except.bind, pure, Except.pure, hcheck h, hcheck hslash,
    h.straighten_eq, hslash.straighten_eq, ite_self, h.quote_eq, hslash.quote_eq, Except.mapError]
  cases quote isUserChar (cutUser p.authority).1 with
  | error f => rfl
  | ok user =>
      cases readHost (cutUser p.authority).2.1 with
      | error f => rfl
      | ok host =>
          cases readPort p.scheme (cutUser p.authority).2.2 with
          | error f => rfl
          | ok port =>
              cases quote? isQueryChar p.query with
              | error f => rfl
              | ok query => cases quote? isFragmentChar p.fragment <;> rfl

theorem before_eq {marks : List Char} (hmarks : marks ⊆ ['?', '#']) :
    before marks path = (path, []) := by
  have hfree : ∀ c ∈ path, (!marks.contains c) = true := by
    intro c hc
    simp only [Bool.not_eq_true', List.contains_eq_mem, decide_eq_false_iff_not]
    intro hm
    have := (plain_char (h.chars c hc)).2.2.2
    have := hmarks hm
    simp_all
  rw [before, List.takeWhile_eq_self_iff.mpr hfree, List.dropWhile_eq_nil_iff.mpr hfree]

/-- A plain target is taken as it is, under an address that takes the root. -/
theorem withTarget_eq {base u : Url} (hbase : base.withTarget ['/'] = .ok u) :
    base.withTarget path =
      if path.length ≤ maxLength then .ok { u with path } else .error (.partTooLong .path) := by
  have hslash : IsPlain ['/'] := ⟨by simp, rfl, rfl⟩
  have hmarks : ['?'] ⊆ ['?', '#'] := by simp
  have hread : ofParts ⟨base.scheme, base.authority, path, none, base.fragment⟩ = _ :=
    h.ofParts_eq ⟨base.scheme, base.authority, path, none, base.fragment⟩
  simp only [withTarget, h.before_eq hmarks, hslash.before_eq hmarks, cutMarked] at hbase ⊢
  split at hbase
  · cases hbase
  · rename_i hfit
    rw [hbase] at hread
    rw [hread]
    simp only [Parts.excess?, Option.map_eq_none_iff, List.find?_eq_none, List.forall_mem_cons,
      decide_eq_true_eq] at hfit
    simp only [Parts.excess?, List.find?_cons, hfit, h.size_eq, decide_false, List.find?_nil]
    by_cases hlong : path.length ≤ maxLength
    · simp [hlong, Nat.not_lt.mpr hlong, Except.map]
    · simp [hlong, Nat.lt_of_not_le hlong]

end IsPlain

/-- A path of many letters, with more behind it. -/
def farPath (n : Nat) (rest : String) : List Char :=
  '/' :: List.replicate n 'a' ++ rest.toList

@[simp] theorem length_farPath (n : Nat) (rest : String) :
    (farPath n rest).length = n + 1 + rest.toList.length := by
  simp only [farPath, List.cons_append, List.length_cons, List.length_append,
    List.length_replicate]
  omega

@[simp] theorem farPath_append (n : Nat) (rest rest' : String) :
    farPath n rest ++ rest'.toList = farPath n (rest ++ rest') := by
  simp [farPath]

theorem isPlain_farPath {n : Nat} {rest : String} (hn : 0 < n)
    (hrest : rest.toList.all (fun c => c.isAlphanum || c == '/') = true) :
    IsPlain (farPath n rest) where
  chars c hc := by
    simp only [farPath, List.cons_append, List.mem_cons, List.mem_append, List.mem_replicate] at hc
    rcases hc with rfl | ⟨-, rfl⟩ | hc
    · exact .inr rfl
    · exact .inl rfl
    · simpa using List.all_eq_true.mp hrest c hc
  rooted := rfl
  single := by
    obtain ⟨m, rfl⟩ := Nat.exists_eq_add_of_lt hn
    simp [farPath, List.replicate_succ, List.isPrefixOf]

/-! ## Plain paths on a host -/

theorem eq_ok_of_toOption {ε α : Type} {r : Except ε α} {a : α} (h : r.toOption = some a) :
    r = .ok a := by
  cases r with
  | error e => cases h
  | ok b => exact congrArg _ (Option.some.inj h)

/-- The text of an address on some host, up to the path. -/
def front : List Char :=
  ['h', 't', 't', 'p', ':', '/', '/', 'h']

/-- The address of a path on that host. -/
def atHost (path : List Char) : Url :=
  ⟨['h', 't', 't', 'p'], [], ['h'], none, path, none, none⟩

theorem ofParts_atHost (h : IsPlain path) :
    ofParts ⟨['h', 't', 't', 'p'], ['h'], path, none, none⟩ = .ok (atHost path) := by
  have hroot : ofParts ⟨['h', 't', 't', 'p'], ['h'], ['/'], none, none⟩ = .ok (atHost ['/']) :=
    eq_ok_of_toOption (by decide +kernel)
  have hread := h.ofParts_eq ⟨['h', 't', 't', 'p'], ['h'], ['/'], none, none⟩
  rw [hroot] at hread
  exact hread

theorem withTarget_atHost (path : List Char) {target : List Char} (h : IsPlain target) :
    (atHost path).withTarget target =
      if target.length ≤ maxLength then .ok (atHost target) else .error (.partTooLong .path) := by
  -- The path that is there does not count.
  have hsame : (atHost path).withTarget ['/'] = (atHost []).withTarget ['/'] := rfl
  have hroot : (atHost []).withTarget ['/'] = .ok (atHost ['/']) :=
    eq_ok_of_toOption (by decide +kernel)
  exact h.withTarget_eq (hsame.trans hroot)

theorem ofChars_atHost (h : IsPlain path) :
    Parts.ofChars (front ++ path) = ⟨['h', 't', 't', 'p'], ['h'], path, none, none⟩ := by
  have hmarks : ['?', '#'] ⊆ ['?', '#'] := List.Subset.refl _
  have hpath := h.before_eq hmarks
  obtain ⟨rest, rfl⟩ : ∃ rest, path = '/' :: rest := List.head?_eq_some_iff.mp h.rooted
  have hscheme : cutScheme (front ++ '/' :: rest) =
      (['h', 't', 't', 'p'], ['/', '/', 'h'] ++ '/' :: rest) := rfl
  have hauthority : cutAuthority (['/', '/', 'h'] ++ '/' :: rest) = (['h'], '/' :: rest) := rfl
  simp only [Parts.ofChars, hscheme, hauthority, hpath, cutMarked]

theorem text_atHost (path : List Char) : (atHost path).text.toList = front ++ path := by
  simp [text, atHost, front, authority, hostText, marked]

theorem read_atHost (h : IsPlain path) (hlen : path.length + front.length ≤ maxLength) :
    read (String.ofList (front ++ path)) = .ok (atHost path) := by
  have hfront : ∀ c ∈ front, c.toNat < 0x80 ∧ isControl c = false := by simp [front, isControl]
  have hchars : ∀ c ∈ front ++ path, c.toNat < 0x80 ∧ isControl c = false := by
    intro c hc
    rcases List.mem_append.mp hc with hm | hm
    · exact hfront c hm
    · exact ⟨(plain_char (h.chars c hm)).1, (plain_char (h.chars c hm)).2.2.1⟩
  have hsize : ¬ maxLength < Text.size (front ++ path) := by
    rw [Text.size, Text.codes_of_forall fun c hc => ?_]
    · simpa [Nat.add_comm] using hlen
    · have := (hchars c hc).1
      simp only [Text.Code.setAside]
      omega
  have hnone : (front ++ path).find? isControl = none := by
    rw [List.find?_eq_none]
    intro c hc
    simp [(hchars c hc).2]
  simp only [read, String.toList_ofList, hsize, if_false, hnone, ofChars_atHost h,
    ofParts_atHost h]

end CommandShell.Url
