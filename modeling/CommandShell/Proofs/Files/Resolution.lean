import CommandShell.Files.Resolve
import Mathlib.Data.List.TakeWhile

/-!
How paths are resolved. The text of a path is taken apart at its slashes, the parts go on a stack
where each `..` takes away what is below it, and what is left is normal: read again, from wherever,
it is what it was. A stack that is normal can be pushed anew part by part, so that two texts in
succession lead to where they lead with a slash between them.
-/

namespace CommandShell.Path

variable {accounts : Accounts} {raw a b part : String} {base p : Path} {parts before : List String}
  {absolute : Bool}

/-! ## Parts -/

/-- Whether a text may be a part of a path that was read. -/
structure IsPart (part : String) : Prop where
  ne_empty : part ≠ ""
  ne_dot : part ≠ "."
  slash : '/' ∉ part.toList

theorem splitSlash_eq (cs : List Char) : splitSlash cs = cs.splitOn '/' := by
  induction cs with
  | nil => rfl
  | cons c rest ih =>
      obtain ⟨part, others, h⟩ := List.exists_cons_of_ne_nil (List.splitOn_ne_nil '/' rest)
      rw [splitSlash, List.splitOn_cons_eq_if_modifyHead, ih, h]
      simp

theorem slash_not_mem_splitSlash {cs part : List Char} (h : part ∈ splitSlash cs) :
    '/' ∉ part := by
  induction cs generalizing part with
  | nil => simp_all [splitSlash]
  | cons c rest ih =>
      rw [splitSlash] at h
      split at h
      · rcases List.mem_cons.mp h with rfl | h
        · exact List.not_mem_nil
        · exact ih h
      · rename_i hc
        split at h
        · simpa [List.mem_singleton.mp h] using Ne.symm hc
        · rename_i first others hs
          rw [hs] at ih
          rcases List.mem_cons.mp h with rfl | h
          · simpa using ⟨Ne.symm hc, ih List.mem_cons_self⟩
          · exact ih (List.mem_cons_of_mem _ h)

theorem isPart_of_mem (h : part ∈ (ofString raw).parts) : IsPart part := by
  obtain ⟨hm, hp⟩ := List.mem_filter.mp h
  obtain ⟨cs, hc, rfl⟩ := List.mem_map.mp hm
  obtain ⟨he, hd⟩ := of_decide_eq_true hp
  exact ⟨he, hd, by simpa using slash_not_mem_splitSlash hc⟩

/-- A slash between two texts keeps their parts apart. -/
theorem parts_append (a b : String) :
    (ofString (a ++ "/" ++ b)).parts = (ofString a).parts ++ (ofString b).parts := by
  have hl : (a ++ "/" ++ b).toList = a.toList ++ '/' :: b.toList := by simp
  rw [ofString, ofString, ofString, hl, splitSlash_eq, splitSlash_eq, splitSlash_eq,
    List.splitOn_append_cons_self, List.map_append, List.filter_append]

/-! ## The stack -/

/-- Above the root there is nothing, so that no step up is left. -/
theorem up_not_mem_pushPart (h : ".." ∉ before) (part : String) :
    ".." ∉ pushPart true before part := by
  by_cases hp : part = ".."
  · cases before with
    | nil => simp [pushPart, hp]
    | cons last others =>
        simp only [List.mem_cons, not_or] at h
        simpa [pushPart, hp, Ne.symm h.1] using h.2
  · simpa [pushPart, hp, Ne.symm hp] using h

theorem up_not_mem_foldl (h : ".." ∉ before) (parts : List String) :
    ".." ∉ parts.foldl (pushPart true) before := by
  induction parts generalizing before with
  | nil => exact h
  | cons part rest ih => exact ih (up_not_mem_pushPart h part)

theorem up_not_mem_normalize (h : p.normalize.isAbsolute = true) : ".." ∉ p.normalize.parts := by
  have ha : p.isAbsolute = true := h
  rw [normalize, ha, List.mem_reverse]
  exact up_not_mem_foldl List.not_mem_nil p.parts

theorem up_not_mem_of_resolve (h : resolve accounts base raw = .ok p) (ha : p.isAbsolute = true) :
    ".." ∉ p.parts := by
  rw [resolve] at h
  split at h
  · cases h
  · cases h
    exact up_not_mem_normalize ha

/-- Nothing comes onto the stack but what is pushed. -/
theorem mem_of_mem_pushPart (h : part ∈ pushPart absolute before a) : part = a ∨ part ∈ before := by
  by_cases ha : a = ".."
  · subst ha
    cases before with
    | nil => cases absolute <;> simp_all [pushPart]
    | cons last others =>
        by_cases hl : last = ".."
        · simpa [pushPart, hl] using h
        · simp only [pushPart, ↓reduceIte, hl] at h
          exact .inr (List.mem_cons_of_mem _ h)
  · rw [pushPart.eq_def, if_neg ha] at h
    exact List.mem_cons.mp h

theorem mem_of_mem_normalize (h : part ∈ p.normalize.parts) : part ∈ p.parts := by
  have hfold : ∀ parts before : List String, part ∈ parts.foldl (pushPart p.isAbsolute) before →
      part ∈ parts ∨ part ∈ before := by
    intro parts
    induction parts with
    | nil => exact fun before h => .inr h
    | cons first rest ih =>
        intro before h
        rcases ih _ h with h | h
        · exact .inl (List.mem_cons_of_mem _ h)
        · rcases mem_of_mem_pushPart h with rfl | h
          · exact .inl List.mem_cons_self
          · exact .inr h
  exact (hfold p.parts [] (List.mem_reverse.mp h)).resolve_right List.not_mem_nil

/-- Without steps up the stack only grows. -/
theorem foldl_pushPart (h : ".." ∉ parts) (before : List String) :
    parts.foldl (pushPart absolute) before = parts.reverse ++ before := by
  induction parts generalizing before with
  | nil => rfl
  | cons part rest ih =>
      rw [List.mem_cons, not_or] at h
      rw [List.foldl_cons, pushPart.eq_def, if_neg (Ne.symm h.1), ih h.2, List.reverse_cons,
        List.append_assoc, List.singleton_append]

theorem normalize_of_not_mem (h : ".." ∉ p.parts) : p.normalize = p := by
  rw [normalize, foldl_pushPart h, List.append_nil, List.reverse_reverse]

/-- What is normal already can be pushed anew before what comes after it. -/
theorem normalize_append (ha : base.isAbsolute = true) (parts : List String) :
    normalize ⟨base.root, base.normalize.parts ++ parts⟩ =
      normalize ⟨base.root, base.parts ++ parts⟩ := by
  have hb : ".." ∉ base.normalize.parts := up_not_mem_normalize ha
  have hpush : base.normalize.parts.foldl (pushPart base.isAbsolute) [] =
      base.parts.foldl (pushPart base.isAbsolute) [] := by
    rw [foldl_pushPart hb, List.append_nil, normalize, List.reverse_reverse]
  have hfold : ∀ first, normalize ⟨base.root, first ++ parts⟩ =
      ⟨base.root, (parts.foldl (pushPart base.isAbsolute)
        (first.foldl (pushPart base.isAbsolute) [])).reverse⟩ := by
    intro first
    rw [normalize, List.foldl_append]
    rfl
  rw [hfold, hfold, hpush]

/-! ## Normal paths -/

/-- Whether a path begins at a root, with only names after it. -/
structure IsNormal (p : Path) : Prop where
  absolute : p.isAbsolute = true
  isPart {part : String} (h : part ∈ p.parts) : IsPart part
  up : ".." ∉ p.parts

theorem isNormal_root : IsNormal ⟨.slash, []⟩ :=
  ⟨rfl, (fun h => nomatch h), List.not_mem_nil⟩

theorem isNormal_normalize (ha : p.isAbsolute = true) (hp : ∀ part ∈ p.parts, IsPart part) :
    p.normalize.IsNormal :=
  ⟨ha, fun h => hp _ (mem_of_mem_normalize h), up_not_mem_normalize ha⟩

/-- Whatever is read from an absolute base. -/
theorem isNormal_normalize_join (ha : base.isAbsolute = true)
    (hb : ∀ part ∈ base.parts, IsPart part) (text : String) :
    (base.join (ofString text)).normalize.IsNormal := by
  rw [join]
  split
  · rename_i ht
    exact isNormal_normalize ht fun part h => isPart_of_mem h
  · refine isNormal_normalize ha fun part h => ?_
    exact (List.mem_append.mp h).elim (hb part) isPart_of_mem

theorem isNormal_of_resolve (ha : base.isAbsolute = true)
    (hb : ∀ part ∈ base.parts, IsPart part) (h : resolve accounts base raw = .ok p) :
    p.IsNormal := by
  rw [resolve] at h
  split at h
  · contradiction
  · cases h
    exact isNormal_normalize_join ha hb _

theorem IsNormal.resolve (hb : base.IsNormal) (h : resolve accounts base raw = .ok p) :
    p.IsNormal :=
  isNormal_of_resolve hb.absolute (fun _ hm => hb.isPart hm) h

/-- Parts that follow a root have no slash at their beginning. -/
theorem takeWhile_intercalate (h : ∀ part ∈ parts, IsPart part) :
    (String.intercalate "/" parts).toList.takeWhile (· = '/') = [] := by
  cases parts with
  | nil => rfl
  | cons part rest =>
      have hp := h part List.mem_cons_self
      obtain ⟨c, cs, hc⟩ := List.exists_cons_of_ne_nil
        (fun he => hp.ne_empty (String.toList_eq_nil_iff.mp he) : part.toList ≠ [])
      have hs : c ≠ '/' := fun he => hp.slash (by simp [hc, he])
      cases rest <;> simp [String.toList_intercalate, hc, hs]

theorem splitSlash_intercalate (h : ∀ part ∈ parts, IsPart part) :
    ((splitSlash (String.intercalate "/" parts).toList).map String.ofList).filter
      (fun p => p ≠ "" ∧ p ≠ ".") = parts := by
  by_cases hn : parts = []
  · subst hn
    rfl
  · have hs : splitSlash (String.intercalate "/" parts).toList = parts.map String.toList := by
      rw [splitSlash_eq, String.toList_intercalate]
      refine List.splitOn_intercalate '/' (fun cs hc => ?_) (by simpa using hn)
      obtain ⟨part, hp, rfl⟩ := List.mem_map.mp hc
      exact (h part hp).slash
    rw [hs, List.map_map]
    simp only [Function.comp_def, String.ofList_toList, List.map_id']
    exact List.filter_eq_self.mpr fun part hp => decide_eq_true ⟨(h part hp).ne_empty,
      (h part hp).ne_dot⟩

theorem ofString_text (h : p.IsNormal) : ofString p.text = p := by
  obtain ⟨root, parts⟩ := p
  have hp : ∀ part ∈ parts, IsPart part := fun part hm => h.isPart hm
  have hw := takeWhile_intercalate hp
  have hs := splitSlash_intercalate hp
  cases root with
  | relative => exact absurd h.absolute Bool.false_ne_true
  | slash =>
      have ht : (text ⟨.slash, parts⟩).toList = '/' :: (String.intercalate "/" parts).toList := by
        simp [text, Root.text]
      rw [ofString, ht, rootOf, List.takeWhile_cons_of_pos (by decide), hw, splitSlash, if_pos rfl,
        List.map_cons, List.filter_cons_of_neg (by decide), hs]
      rfl
  | doubleSlash =>
      have ht : (text ⟨.doubleSlash, parts⟩).toList =
          '/' :: '/' :: (String.intercalate "/" parts).toList := by
        simp [text, Root.text]
      rw [ofString, ht, rootOf, List.takeWhile_cons_of_pos (by decide),
        List.takeWhile_cons_of_pos (by decide), hw, splitSlash, if_pos rfl, splitSlash, if_pos rfl,
        List.map_cons, List.map_cons, List.filter_cons_of_neg (by decide),
        List.filter_cons_of_neg (by decide), hs]
      rfl

/-! ## Reading again -/

theorem exists_slash_of_isAbsolute (h : (ofString raw).isAbsolute = true) :
    ∃ rest, raw.toList = '/' :: rest := by
  cases hr : raw.toList with
  | nil => simp [ofString, isAbsolute, rootOf, hr] at h
  | cons c rest =>
      by_cases hc : c = '/'
      · exact ⟨rest, by rw [hc]⟩
      · simp [ofString, isAbsolute, rootOf, hr, hc] at h

theorem expandHome_of_head {c : Char} {rest : List Char} (hr : raw.toList = c :: rest)
    (hc : c ≠ '~') : expandHome accounts raw = .ok raw := by
  rw [expandHome.eq_def, hr]
  split
  · simp_all
  · rfl

/-- A normal path is itself, from whatever base it is read. -/
theorem IsNormal.resolve_text (h : p.IsNormal) (accounts : Accounts) (base : Path) :
    Path.resolve accounts base p.text = .ok p := by
  have ht := ofString_text h
  have ha : (ofString p.text).isAbsolute = true := by rw [ht, h.absolute]
  obtain ⟨rest, hr⟩ := exists_slash_of_isAbsolute ha
  rw [Path.resolve, expandHome_of_head hr (by decide)]
  dsimp only
  rw [ht, join, if_pos h.absolute, normalize_of_not_mem h.up]

/-! ## Tildes -/

/-- Whether a text begins with a tilde and the name of an account. -/
def NamesAccount (raw : String) (account : List Char) : Prop :=
  ∃ rest, raw.toList = '~' :: account ++ rest ∧ account ≠ [] ∧ '/' ∉ account ∧
    ∀ c ∈ rest.head?, c = '/'

theorem takeWhile_account {account rest : List Char} (hs : '/' ∉ account)
    (hr : ∀ c ∈ rest.head?, c = '/') : (account ++ rest).takeWhile (· ≠ '/') = account := by
  have hne : ∀ c ∈ account, decide (c ≠ '/') = true :=
    fun c hc => decide_eq_true fun he => hs (he ▸ hc)
  rw [List.takeWhile_append_of_pos hne]
  cases rest with
  | nil => simp
  | cons c more => simp [hr c rfl]

theorem homeOf_eq_error {name : String} {f : FileFault} :
    homeOf accounts name = .error f ↔ name ≠ "" ∧ FileFault.ofName? name = some f := by
  rw [homeOf]
  by_cases hn : name = ""
  · simp [hn]
  · cases FileFault.ofName? name <;> simp [hn]

/-- Only the name of an account may be a fault. -/
theorem expandHome_eq_error {f : FileFault} :
    expandHome accounts raw = .error f ↔
      ∃ account, NamesAccount raw account ∧ FileFault.ofName? (String.ofList account) = some f := by
  constructor
  · intro h
    rw [expandHome.eq_def] at h
    split at h
    · rename_i rest hr
      split at h
      · rename_i f' hf
        cases h
        obtain ⟨hn, hf⟩ := homeOf_eq_error.mp hf
        refine ⟨rest.takeWhile (· ≠ '/'), ⟨rest.dropWhile (· ≠ '/'), ?_, ?_, ?_, ?_⟩, hf⟩
        · rw [hr, List.cons_append, List.takeWhile_append_dropWhile]
        · exact fun he => hn (by rw [he])
        · intro hm
          simpa using List.mem_takeWhile_imp hm
        · intro c hc
          have hd := List.head?_dropWhile_not (· ≠ '/') rest
          rw [Option.mem_def.mp hc] at hd
          simpa using hd
      · contradiction
      · contradiction
    · contradiction
  · rintro ⟨account, ⟨rest, hr, hn, hs, hrest⟩, hf⟩
    have he : String.ofList account ≠ "" := by simpa using hn
    rw [List.cons_append] at hr
    simp only [expandHome, hr, takeWhile_account hs hrest, homeOf_eq_error.mpr ⟨he, hf⟩]

theorem resolve_eq_error {f : FileFault} :
    resolve accounts base raw = .error f ↔
      ∃ account, NamesAccount raw account ∧ FileFault.ofName? (String.ofList account) = some f := by
  rw [← @expandHome_eq_error accounts, resolve]
  cases expandHome accounts raw <;> simp

/-- A text that names no account, or one that can be looked up, is resolved. -/
theorem exists_resolve (accounts : Accounts) (base : Path)
    (h : ∀ account, NamesAccount raw account → FileFault.ofName? (String.ofList account) = none) :
    ∃ p, resolve accounts base raw = .ok p := by
  cases hr : resolve accounts base raw with
  | ok p => exact ⟨p, rfl⟩
  | error f =>
      obtain ⟨account, hn, hf⟩ := resolve_eq_error.mp hr
      rw [h account hn] at hf
      contradiction

/-! ## Steps -/

/-- Whether a text begins with neither a slash nor a tilde, and is not empty. -/
def IsStep (raw : String) : Prop :=
  ∃ c rest, raw.toList = c :: rest ∧ c ≠ '/' ∧ c ≠ '~'

theorem IsStep.append (h : IsStep a) (b : String) : IsStep (a ++ b) := by
  obtain ⟨c, rest, ha, hc⟩ := h
  exact ⟨c, rest ++ b.toList, by simp [ha], hc⟩

theorem IsStep.resolve_eq (h : IsStep raw) (accounts : Accounts) (base : Path) :
    resolve accounts base raw = .ok (base.join (ofString raw)).normalize := by
  obtain ⟨c, rest, hr, -, hc⟩ := h
  rw [resolve, expandHome_of_head hr hc]

theorem IsStep.join_eq (h : IsStep raw) (base : Path) :
    base.join (ofString raw) = ⟨base.root, base.parts ++ (ofString raw).parts⟩ := by
  obtain ⟨c, rest, hr, hc, -⟩ := h
  have ha : (ofString raw).isAbsolute = false := by
    simp [ofString, isAbsolute, rootOf, hr, hc]
  rw [join, ha]
  rfl

theorem ofString_of_isPart (h : IsPart part) : ofString part = ⟨.relative, [part]⟩ := by
  have hp : ∀ p ∈ [part], IsPart p := by simpa using h
  have hi : String.intercalate "/" [part] = part := by simp
  have hw := takeWhile_intercalate hp
  have hs := splitSlash_intercalate hp
  rw [hi] at hw hs
  rw [ofString, rootOf, hw, hs]
  rfl

/-- A name leads from a base to what goes by it there. -/
theorem resolve_of_isPart (hb : base.IsNormal) (h : IsPart part) (hs : IsStep part)
    (hu : part ≠ "..") : resolve accounts base part = .ok ⟨base.root, base.parts ++ [part]⟩ := by
  rw [hs.resolve_eq, hs.join_eq, ofString_of_isPart h]
  refine congrArg Except.ok (normalize_of_not_mem fun hm => ?_)
  rcases List.mem_append.mp hm with hm | hm
  · exact hb.up hm
  · exact hu (List.mem_singleton.mp hm).symm

/-- Two steps lead to where they lead with a slash between them. -/
theorem resolve_resolve (hb : base.isAbsolute = true) (ha : IsStep a) (hb' : IsStep b)
    (h : resolve accounts base a = .ok p) :
    resolve accounts p b = resolve accounts base (a ++ "/" ++ b) := by
  have hab : IsStep (a ++ "/" ++ b) := (ha.append "/").append b
  have hn : isAbsolute ⟨base.root, base.parts ++ (ofString a).parts⟩ = true := hb
  rw [ha.resolve_eq, ha.join_eq] at h
  cases h
  rw [hb'.resolve_eq, hb'.join_eq, hab.resolve_eq, hab.join_eq, parts_append, ← List.append_assoc]
  exact congrArg Except.ok (normalize_append hn _)

end CommandShell.Path
