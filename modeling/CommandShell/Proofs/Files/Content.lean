import CommandShell.Builtin.File
import CommandShell.Proofs.Files.Frame
import CommandShell.Proofs.Files.Resolution

/-!
What a file holds after it is written. Its directories are made on the way, and neither they nor the
new content move the place to which its path leads.
-/

namespace CommandShell

namespace Disk

variable {d d' : Disk} {p : Path} {append executable : Bool} {old : ByteArray}
  {place : Place} {there : Option Place} {texts : List String}

/-! ## Reading -/

theorem readBytes_eq_ok {content : ByteArray} :
    d.readBytes p = .ok content ↔
      ∃ place executable, FileFault.ofName? p.text = none ∧ d.locate p = .ok (some place) ∧
        d.node? place = some (.file content executable) := by
  constructor
  · intro h
    rw [readBytes, need, find] at h
    cases hp : FileFault.ofName? p.text with
    | some f => simp [hp] at h
    | none =>
        cases hl : d.locate p with
        | error e => simp [hp, hl] at h
        | ok there =>
            cases there with
            | none => simp [hp, hl, nodeAt] at h
            | some place =>
                cases hn : d.node? place with
                | none => simp [hp, hl, nodeAt, hn] at h
                | some node =>
                    cases node with
                    | directory => simp [hp, hl, nodeAt, hn] at h
                    | file old executable =>
                        simp only [hp, hl, nodeAt, hn, Except.ok.injEq] at h
                        exact ⟨place, executable, rfl, rfl, h ▸ hn⟩
  · rintro ⟨place, executable, hp, hl, hn⟩
    exact readBytes_of_locate hp hl hn

/-- What can be read is a file. -/
theorem isFile_of_readBytes {content : ByteArray} (h : d.readBytes p = .ok content) :
    d.isFile p = .ok true := by
  obtain ⟨place, executable, hp, hl, hn⟩ := readBytes_eq_ok.mp h
  simp [isFile, probe, hp, find, hl, nodeAt, hn, Node.isFile]

/-- There is no node where a path leads to nothing. -/
theorem node?_of_not_exists (h : d.exists? p = .ok false) (hp : FileFault.ofName? p.text = none)
    (hl : d.locate p = .ok (some place)) : d.node? place = none := by
  cases hn : d.node? place with
  | none => rfl
  | some node =>
      rw [exists?_of_locate hp hl hn] at h
      cases h

/-! ## Writing -/

/-- What a file is opened with. -/
theorem openFile_eq_ok (h : d.openFile p append = .ok (there, old, executable)) :
    FileFault.ofName? p.text = none ∧ ∃ place, there = some place ∧
      d.locate p = .ok (some place) ∧ d.Free place ∧
      (d.node? place = none ∧ old = .empty ∨
        ∃ content, d.node? place = some (.file content executable) ∧
          old = if append then content else .empty) := by
  rw [openFile] at h
  split at h
  · cases h
  next hp =>
  split at h
  · cases h
  next there' hl =>
  split at h
  · cases h
  · next hn =>
      cases h
      obtain ⟨place, rfl, hf⟩ := free_of_nodeAt (by simp [hn] : d.nodeAt there ≠ some .directory)
      exact ⟨hp, place, rfl, hl, hf, .inl ⟨hn, rfl⟩⟩
  · next content executable' hn =>
      cases h
      obtain ⟨place, rfl, hf⟩ := free_of_nodeAt (by simp [hn] : d.nodeAt there ≠ some .directory)
      exact ⟨hp, place, rfl, hl, hf, .inr ⟨content, hn, rfl⟩⟩

/-- What is written follows what the file was opened with. -/
theorem writeText_append_ok (h : d.writeText p append texts = (.ok (), d')) :
    (encode texts).2 = none ∧
      ∃ place old executable, d.openFile p append = .ok (some place, old, executable) ∧
        d'.readBytes p = .ok (old ++ (encode texts).1) := by
  rw [writeText] at h
  cases ho : d.openFile p append with
  | error f => simp [ho] at h
  | ok opened =>
      obtain ⟨there, old, executable⟩ := opened
      obtain ⟨hp, place, rfl, hl, hf, -⟩ := openFile_eq_ok ho
      cases he : (encode texts).2 with
      | some f => simp [ho, he] at h
      | none =>
          simp only [ho, he, Prod.mk.injEq, true_and] at h
          refine ⟨rfl, place, old, executable, rfl, ?_⟩
          rw [← h]
          exact readBytes_of_locate hp ((hf.grows_put _).locate hl) (node?_put hf.ne_nil _)

section Made

variable (hm : Deepens p.parent.root p.parent.parts d d')
include hm

/-- A file stays as it is while directories are made. -/
theorem Deepens.openFile_of_readBytes {content : ByteArray} (h : d.readBytes p = .ok content)
    (ho : d'.openFile p append = .ok (there, old, executable)) :
    old = if append then content else .empty := by
  obtain ⟨place, executable', -, hl, hn⟩ := readBytes_eq_ok.mp h
  obtain ⟨-, place', -, hl', -, hc⟩ := openFile_eq_ok ho
  rw [hm.grows.locate hl] at hl'
  cases hl'
  have hn' : d'.node? place = some (.file content executable') := by
    rcases hm.node place with he | ⟨he, -⟩
    · rw [he, hn]
    · rw [hn] at he
      cases he
  obtain ⟨hc, -⟩ | ⟨content', hc, he⟩ := hc
  · rw [hn'] at hc
    cases hc
  · rw [hn'] at hc
    cases hc
    exact he

/-- Where there was nothing, directories that are made bring no file about. -/
theorem Deepens.openFile_of_not_exists (hr : d.Rooted) (hu : ".." ∉ p.parts)
    (h : d.exists? p = .ok false)
    (ho : d'.openFile p append = .ok (there, old, executable)) : old = .empty := by
  obtain ⟨hp, place, -, hl, hf, hc⟩ := openFile_eq_ok ho
  have hn : d.node? place = none := by
    rcases locate_of_sparesFiles hr hm.sparesFiles hu hl with hl | hn
    · exact node?_of_not_exists h hp hl
    · exact hn
  obtain ⟨-, he⟩ | ⟨content, hc, -⟩ := hc
  · exact he
  · rcases hm.node place with he | ⟨-, he, -⟩
    · rw [hc, hn] at he
      cases he
    · exact absurd he hf

end Made

end Disk

/-! ## Writing with the directories -/

namespace Builtin.File

variable {d d' : Disk} {p : Path} {append : Bool} {ls : List String}

theorem store_ok (h : store d p append ls = (.ok (), d')) :
    (Disk.encode ls).2 = none ∧
      ∃ d₁ place old executable, Disk.Deepens p.parent.root p.parent.parts d d₁ ∧
        d₁.openFile p append = .ok (some place, old, executable) ∧
        d'.readBytes p = .ok (old ++ (Disk.encode ls).1) := by
  rw [store] at h
  split at h
  · cases h
  next d₁ hm =>
  have hd := Disk.makeDirectories_deepens d true p.parent
  rw [hm] at hd
  obtain ⟨he, place, old, executable, ho, hb⟩ := Disk.writeText_append_ok h
  exact ⟨he, d₁, place, old, executable, hd, ho, hb⟩

theorem store_ok_of_readBytes {content : ByteArray} (hc : d.readBytes p = .ok content)
    (h : store d p append ls = (.ok (), d')) :
    (Disk.encode ls).2 = none ∧
      d'.readBytes p = .ok ((if append then content else .empty) ++ (Disk.encode ls).1) := by
  obtain ⟨he, d₁, place, old, executable, hm, ho, hb⟩ := store_ok h
  rw [← hm.openFile_of_readBytes hc ho]
  exact ⟨he, hb⟩

theorem store_ok_of_not_exists (hr : d.Rooted) (hu : ".." ∉ p.parts)
    (hn : d.exists? p = .ok false) (h : store d p append ls = (.ok (), d')) :
    (Disk.encode ls).2 = none ∧ d'.readBytes p = .ok (Disk.encode ls).1 := by
  obtain ⟨he, d₁, place, old, executable, hm, ho, hb⟩ := store_ok h
  rw [hm.openFile_of_not_exists hr hu hn ho, ByteArray.empty_append] at hb
  exact ⟨he, hb⟩

end Builtin.File

end CommandShell
