import CommandShell.Proofs.Files.Tree
import CommandShell.Proofs.Text.Encoding
import CommandShell.Store

/-!
A file replaced by way of its sibling. Writing the sibling and moving it take no directory away, so
the path leads to the same place before and after, and what was written is found there.
-/

namespace CommandShell

/-! ## Names -/

namespace Text

theorem mem_codes_append {cs : List Char} {n : Nat} (h : n ∈ codes cs)
    (hn : Surrogate.isHalf n = true) (ds : List Char) : n ∈ codes (cs ++ ds) := by
  fun_induction codes cs with
  | case1 => simp at h
  | case2 c =>
      rw [List.mem_singleton] at h
      rw [h, Surrogate.isHalf_toNat] at hn
      contradiction
  | case3 c d rest hc ih =>
      rw [List.cons_append, List.cons_append, codes, if_pos hc]
      exact (List.mem_cons.1 h).elim (fun he => he ▸ List.mem_cons_self)
        fun hm => List.mem_cons_of_mem _ (ih hm)
  | case4 c d rest hc ih =>
      rw [List.cons_append, List.cons_append, codes, if_neg hc]
      exact (List.mem_cons.1 h).elim (fun he => he ▸ List.mem_cons_self)
        fun hm => List.mem_cons_of_mem _ (ih hm)

theorem EncodeFault.findInName?_eq_none {start : Nat} {ns : List Nat} :
    findInName? start ns = none ↔
      ∀ n ∈ ns, (Surrogate.isHalf n && !Surrogate.isByte n) = false := by
  induction ns generalizing start with
  | nil => simp [findInName?]
  | cons n rest ih =>
      rw [findInName?, List.forall_mem_cons]
      cases h : Surrogate.isHalf n && !Surrogate.isByte n with
      | true =>
          have hh : Surrogate.isHalf n = true := (Bool.and_eq_true_iff.1 h).1
          simp [hh, ofRun]
      | false => simpa using ih

end Text

/-- The beginning of a name that the system takes is one too. -/
theorem FileFault.ofName?_of_append {name rest : String} (h : ofName? (name ++ rest) = none) :
    ofName? name = none := by
  rw [ofName?, String.toList_append] at h
  cases hf : Text.EncodeFault.findInName? 0 (Text.codes (name.toList ++ rest.toList)) with
  | some f => simp [hf] at h
  | none =>
      simp only [hf, ite_eq_right_iff, reduceCtorEq, imp_false] at h
      have hname : Text.EncodeFault.findInName? 0 (Text.codes name.toList) = none := by
        rw [Text.EncodeFault.findInName?_eq_none] at hf ⊢
        intro n hn
        cases hh : Text.Surrogate.isHalf n with
        | false => rfl
        | true => simpa [hh] using hf n (Text.mem_codes_append hn hh rest.toList)
      have hnull : name.toList.contains '\x00' = false := by
        simp only [List.contains_iff_mem, List.mem_append, not_or] at h
        simpa using h.1
      rw [ofName?, hname, hnull]
      rfl

/-- What the system does not take as a name has no encoding or holds a null. -/
theorem FileFault.of_ofName? {s : String} {f : FileFault} (h : ofName? s = some f) :
    (∃ e, f = .notEncodable e) ∨ '\x00' ∈ s.toList := by
  rw [ofName?] at h
  split at h
  · next e _ =>
      cases h
      exact .inl ⟨e, rfl⟩
  · split at h
    · next hc => exact .inr (List.contains_iff_mem.mp hc)
    · contradiction

/-- The text of a path begins with that of every path above it, but for one that is just here. -/
theorem Path.text_leading {p : Path} {leading : List String} (h : leading <+: p.parts) :
    (∃ rest, p.text = (⟨p.root, leading⟩ : Path).text ++ rest) ∨
      (⟨p.root, leading⟩ : Path).text = "." := by
  obtain ⟨more, hp⟩ := h
  cases leading with
  | nil =>
      by_cases hr : p.root = .relative
      · exact .inr (by simp [text, hr])
      · exact .inl ⟨String.intercalate "/" p.parts, by simp [text, hr]⟩
  | cons first before =>
      have hne : p.parts ≠ [] := by simp [← hp]
      cases more with
      | nil =>
          rw [List.append_nil] at hp
          exact .inl ⟨"", by simp [text, hp]⟩
      | cons last others =>
          refine .inl ⟨"/" ++ String.intercalate "/" (last :: others), ?_⟩
          rw [text, text, if_neg (by simp [hne]), if_neg (by simp), ← hp,
            String.intercalate_append_of_ne_nil (by simp) (by simp)]
          simp only [String.append_assoc]

/-- The name of a path is its last part. -/
theorem Path.dropLast_concat_name {p : Path} (h : p.name ≠ "") :
    p.parts.dropLast ++ [p.name] = p.parts := by
  have hne : p.parts ≠ [] := fun he => h (by simp [name, he])
  rw [name, List.getLast?_eq_some_getLast hne, Option.getD_some,
    List.dropLast_concat_getLast hne]

theorem Store.text_temporary {p : Path} (h : p.name ≠ "") :
    (temporary p).text = p.text ++ ".tmp" := by
  have hne : p.parts ≠ [] := fun he => h (by simp [Path.name, he])
  have hjoin : ∀ before : List String, String.intercalate "/" (before ++ [p.name ++ ".tmp"])
      = String.intercalate "/" (before ++ [p.name]) ++ ".tmp" := by
    intro before
    cases before with
    | nil => simp
    | cons part rest =>
        rw [String.intercalate_append_of_ne_nil (by simp) (by simp),
          String.intercalate_append_of_ne_nil (by simp) (by simp), String.intercalate_singleton,
          String.intercalate_singleton, ← String.append_assoc]
  rw [Path.text, Path.text, if_neg (by simp [temporary]), if_neg (by simp [hne]), temporary, hjoin,
    Path.dropLast_concat_name h, String.append_assoc]

namespace Disk

variable {d d' : Disk} {place : Place} {there : Option Place} {p : Path}

/-! ## Writing and moving -/

theorem need_of_locate {node : Node} (hp : FileFault.ofName? p.text = none)
    (hl : d.locate p = .ok (some place)) (hn : d.node? place = some node) :
    d.need p = .ok (some place, node) := by
  simp only [need, hp, find, hl, nodeAt, hn]

theorem exists?_of_locate {node : Node} (hp : FileFault.ofName? p.text = none)
    (hl : d.locate p = .ok (some place)) (hn : d.node? place = some node) :
    d.exists? p = .ok true := by
  simp [exists?, probe, hp, find, hl, nodeAt, hn]

theorem readBytes_of_locate {content : ByteArray} {executable : Bool}
    (hp : FileFault.ofName? p.text = none) (hl : d.locate p = .ok (some place))
    (hn : d.node? place = some (.file content executable)) : d.readBytes p = .ok content := by
  rw [readBytes, need_of_locate hp hl hn]

/-- Only at a place of its own is there no directory. -/
theorem free_of_nodeAt (h : d.nodeAt there ≠ some .directory) :
    ∃ place, there = some place ∧ d.Free place := by
  cases there with
  | none => exact absurd rfl h
  | some place => exact ⟨place, rfl, h⟩

theorem openFile_ok {old : ByteArray} {executable : Bool}
    (h : d.openFile p false = .ok (there, old, executable)) :
    FileFault.ofName? p.text = none ∧ d.locate p = .ok there ∧
      d.nodeAt there ≠ some .directory ∧ old = ByteArray.empty := by
  rw [openFile] at h
  split at h
  · cases h
  next hp =>
  split at h
  · cases h
  next there' hl =>
  split at h
  · cases h
  · next hn =>
      cases h
      exact ⟨hp, hl, by simp [hn], rfl⟩
  · next hn =>
      cases h
      exact ⟨hp, hl, by simp [hn], rfl⟩

theorem writeText_ok {text : String} (h : d.writeText p false [text] = (.ok (), d')) :
    FileFault.ofName? p.text = none ∧ Text.EncodeFault.find? text.toList = none ∧
      ∃ place executable, d.locate p = .ok (some place) ∧ d.Free place ∧
        d' = d.put place (.file (Text.bytes text) executable) := by
  rw [writeText] at h
  cases ho : d.openFile p false with
  | error f => simp [ho] at h
  | ok opened =>
      obtain ⟨there, old, executable⟩ := opened
      obtain ⟨hp, hl, hd, rfl⟩ := openFile_ok ho
      obtain ⟨place, rfl, hfree⟩ := free_of_nodeAt hd
      cases hf : Text.EncodeFault.find? text.toList with
      | some f => simp [ho, encode, hf] at h
      | none =>
          simp only [ho, encode, hf, Prod.mk.injEq, true_and, ByteArray.empty_append,
            ByteArray.append_empty] at h
          exact ⟨hp, rfl, place, executable, hl, hfree, h.symm⟩

theorem rename_ok {source target : Path} (h : d.rename source target = .ok d') :
    ∃ from_ node there, d.need source = .ok (some from_, node) ∧
      d.locate target = .ok (some there) ∧ d.Free there ∧
      d' = ({ d with nodes := d.nodes.erase from_ }).put there node := by
  rw [rename] at h
  split at h
  · cases h
  · cases h
  next from_ node hs =>
  split at h
  · cases h
  next there hl =>
  split at h
  · cases h
  split at h
  · cases h
  next hd =>
  cases h
  obtain ⟨place, rfl, hfree⟩ := free_of_nodeAt hd
  exact ⟨from_, node, place, hs, hl, hfree, rfl⟩

/-- What writing a file at one place and moving it to another does. -/
structure Moved (source target : Path) (content : ByteArray) (place there : Place) (d d' : Disk) :
    Prop where
  grows : Grows d d'
  locate_source : d'.locate source = .ok (some place)
  locate_target : d'.locate target = .ok (some there)
  found : ∃ executable, d'.node? there = some (.file content executable)
  gone (h : place ≠ there) : d'.node? place = none
  others {place' : Place} (h : place' ≠ place) (h' : place' ≠ there) :
    d'.node? place' = d.node? place'
  rooted (hr : d.Rooted) : d'.Rooted

theorem moved {source target : Path} {text : String} {d₁ d₂ : Disk}
    (hw : d.writeText source false [text] = (.ok (), d₁)) (hr : d₁.rename source target = .ok d₂) :
    ∃ place there, Moved source target (Text.bytes text) place there d d₂ := by
  obtain ⟨hsource, -, place, executable, hl, hfree, hd₁⟩ := writeText_ok hw
  obtain ⟨from_, node, there, hneed, hlt, hfree', hd₂⟩ := rename_ok hr
  have hg₁ : Grows d d₁ := hd₁ ▸ hfree.grows_put _
  have hn₁ : d₁.node? place = some (.file (Text.bytes text) executable) :=
    hd₁ ▸ node?_put hfree.ne_nil _
  rw [need_of_locate hsource (hg₁.locate hl) hn₁] at hneed
  cases hneed
  have hplace : d₁.Free place := by simp [Free, hn₁]
  have hg₂ : Grows d₁ d₂ := hd₂ ▸ hplace.grows_move hfree' _
  refine ⟨place, there, hg₁.trans hg₂, hg₂.locate (hg₁.locate hl), hg₂.locate hlt, ?_, ?_, ?_, ?_⟩
  · exact ⟨executable, hd₂ ▸ node?_put hfree'.ne_nil _⟩
  · exact fun h => hd₂ ▸ node?_move_from hfree.ne_nil h
  · intro place' h h'
    rw [hd₂, node?_move_of_ne h h', hd₁, node?_put_of_ne h]
  · intro hroot
    have hroot₁ : d₁.Rooted := hd₁ ▸ hroot.put hfree (hroot.locate hl) _
    exact hd₂ ▸ hroot₁.move hplace hfree' (hroot₁.locate hlt) _

/-- A file that is written and moved is found where it was moved to. -/
theorem found_of_moved {source target : Path} {text : String} {d₁ d₂ : Disk}
    (hname : FileFault.ofName? target.text = none)
    (hw : d.writeText source false [text] = (.ok (), d₁)) (hr : d₁.rename source target = .ok d₂) :
    d₂.exists? target = .ok true ∧ d₂.readBytes target = .ok (Text.bytes text) := by
  obtain ⟨place, there, hv⟩ := moved hw hr
  obtain ⟨executable, hn⟩ := hv.found
  exact ⟨exists?_of_locate hname hv.locate_target hn,
    readBytes_of_locate hname hv.locate_target hn⟩

end Disk

/-- What a save has written is found again. -/
theorem Store.writeFile_ok {d d' : Disk} {p : Path} {text : String}
    (h : writeFile d p text = (.ok (), d')) :
    Text.EncodeFault.find? text.toList = none ∧ d'.exists? p = .ok true ∧
      d'.readBytes p = .ok (Text.bytes text) := by
  rw [writeFile] at h
  split at h
  · cases h
  next d₁ hm =>
  split at h
  · cases h
  next hname =>
  split at h
  · cases h
  next d₂ hw =>
  split at h
  · cases h
  next d₃ hr =>
  cases h
  obtain ⟨htmp, hcodes, -⟩ := Disk.writeText_ok hw
  rw [text_temporary hname] at htmp
  exact ⟨hcodes, Disk.found_of_moved (FileFault.ofName?_of_append htmp) hw hr⟩

end CommandShell
