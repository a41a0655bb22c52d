import CommandShell.Proofs.Files.Frame
import CommandShell.Proofs.Store.Reopen

/-!
What a save leaves, wherever it ends. The file is replaced as a whole or not at all, and but for its
sibling and the directories above it nothing else is touched.
-/

namespace CommandShell

namespace Disk

/-- The content of the file at a place, if there is one. -/
def contentAt (d : Disk) (place : Place) : Option ByteArray :=
  match d.node? place with
  | some (.file content _) => some content
  | _ => none

/-- The content of the file that a path names, if there is one. -/
def content? (d : Disk) (p : Path) : Option ByteArray :=
  (d.readBytes p).toOption

section Content

variable {d d' : Disk} {p : Path} {root : Path.Root} {parts : List String} {place : Place}
  {there : Option Place}

theorem content?_of_locate (h : d.locate p = .ok there) :
    d.content? p =
      if (FileFault.ofName? p.text).isSome then none else there.bind d.contentAt := by
  rw [content?, readBytes, need]
  cases FileFault.ofName? p.text with
  | some f => rfl
  | none =>
      cases there with
      | none =>
          simp only [find, h, nodeAt]
          rfl
      | some place =>
          simp only [find, h, nodeAt, contentAt, Option.bind_some]
          rcases d.node? place with _ | _ | _ <;> rfl

theorem content?_of_error {e : Errno} (h : d.locate p = .error e) : d.content? p = none := by
  rw [content?, readBytes, need]
  cases FileFault.ofName? p.text with
  | some f => rfl
  | none =>
      simp only [find, h]
      rfl

/-- No file was there before a directory was made, and none is there then. -/
theorem KeptOrMade.contentAt_eq (h : KeptOrMade root parts d d' place) :
    d'.contentAt place = d.contentAt place := by
  rw [contentAt, contentAt]
  rcases h with h | ⟨hn, hm, -⟩
  · rw [h]
  · rw [hn, hm]

end Content

end Disk

namespace Store

open Disk (Deepens Grows KeptOrMade Moved SparesFiles)

/-- How a save goes. Directories are made as far as it gets. It ends there, or with a sibling that
has been begun, or with the file replaced by the finished sibling. -/
inductive Course (d : Disk) (p : Path) (text : String) : Except FileFault Unit → Disk → Prop
  | kept {f d₁} (hm : Deepens p.root p.parent.parts d d₁) : Course d p text (.error f) d₁
  | begun {f d₁ place content executable} (hm : Deepens p.root p.parent.parts d d₁)
      (hl : d₁.locate (temporary p) = .ok (some place)) (hf : d₁.Free place) :
      Course d p text (.error f) (d₁.put place (.file content executable))
  | replaced {d₁ d₂ place there} (hm : Deepens p.root p.parent.parts d d₁)
      (hv : Moved (temporary p) p (Text.bytes text) place there d₁ d₂) :
      Course d p text (.ok ()) d₂

variable {p : Path} {d d' : Disk} {text : String} {r : Except FileFault Unit}

theorem writeFile_course (hn : p.name ≠ "") (d : Disk) (text : String) :
    Course d p text (writeFile d p text).1 (writeFile d p text).2 := by
  have hm := Disk.makeDirectories_deepens d true p.parent
  rw [writeFile]
  cases hd : d.makeDirectories true p.parent with
  | mk o d₁ =>
      rw [hd] at hm
      cases o with
      | error f => exact .kept hm
      | ok =>
          dsimp only
          rw [if_neg hn]
          have ht := Disk.writeText_touches d₁ (temporary p) [text]
          cases hw : d₁.writeText (temporary p) false [text] with
          | mk o d₂ =>
              rw [hw] at ht
              have hend : ∀ f, Course d p text (.error f) d₂ := by
                intro f
                rcases ht with rfl | ⟨place, content, executable, hl, hf, rfl⟩
                · exact .kept hm
                · exact .begun hm hl hf
              cases o with
              | error f => exact hend f
              | ok =>
                  cases hr : d₂.rename (temporary p) p with
                  | error f =>
                      simp only [hr]
                      exact hend f
                  | ok d₃ =>
                      obtain ⟨place, there, hv⟩ := Disk.moved hw hr
                      simp only [hr]
                      exact .replaced hm hv

/-! ## What is touched -/

namespace Course

variable {place : Place}

theorem grows (h : Course d p text r d') : Grows d d' := by
  cases h with
  | kept hm => exact hm.grows
  | begun hm hl hf => exact hm.grows.trans (hf.grows_put _)
  | replaced hm hv => exact hm.grows.trans hv.grows

/-- A tree stays one, wherever the save ends. -/
theorem rooted (h : Course d p text r d') (hr : d.Rooted) : d'.Rooted := by
  cases h with
  | kept hm => exact hm.rooted hr
  | @begun f d₁ sibling content executable hm hl hf =>
      have hr₁ : d₁.Rooted := hm.rooted hr
      exact hr₁.put hf (hr₁.locate hl) _
  | replaced hm hv => exact hv.rooted (hm.rooted hr)

/-- Every place but those of the sibling and of the file has what it had, or is a directory that was
made. The place of the file is another one only if every step succeeded. -/
theorem node (h : Course d p text r d') (place : Place) :
    KeptOrMade p.root p.parent.parts d d' place ∨
      d'.locate (temporary p) = .ok (some place) ∨
      r = .ok () ∧ d'.locate p = .ok (some place) := by
  cases h with
  | kept hm => exact .inl (hm.node place)
  | @begun f d₁ sibling content executable hm hl hf =>
      have hg := hf.grows_put (.file content executable)
      by_cases he : place = sibling
      · exact .inr (.inl (he ▸ hg.locate hl))
      · exact .inl ((hm.node place).of_eq hg (Disk.node?_put_of_ne he))
  | @replaced d₁ d₂ sibling there hm hv =>
      by_cases he : place = sibling
      · exact .inr (.inl (he ▸ hv.locate_source))
      · by_cases he' : place = there
        · exact .inr (.inr ⟨rfl, he' ▸ hv.locate_target⟩)
        · exact .inl ((hm.node place).of_eq hv.grows (hv.others he he'))

/-- Before the last step no file has become a directory. -/
theorem sparesFiles (h : Course d p text r d') (hr : r ≠ .ok ()) : SparesFiles d d' := by
  cases h with
  | kept hm => exact hm.sparesFiles
  | @begun f d₁ sibling content executable hm hl hf =>
      refine ⟨hm.start, hm.lost, fun place hp => ?_⟩
      by_cases he : place = sibling
      · rw [he, Disk.node?_put hf.ne_nil] at hp
        cases hp
      · rw [Disk.node?_put_of_ne he] at hp
        exact hm.sparesFiles.directory place hp
  | replaced => exact absurd rfl hr

section Kept

variable (hn : p.name ≠ "") (hu : p.name ≠ "..")
include hn hu

/-- After the last step there is no sibling any more. -/
theorem sibling_gone (h : Course d p text (.ok ()) d') :
    d'.exists? (temporary p) = .ok false := by
  cases h with
  | @replaced d₁ d₂ sibling there hm hv =>
      have hne : sibling ≠ there := fun he =>
        Disk.locate_temporary_ne hn hu hv.locate_target hv.locate_source (congrArg some he)
      rw [Disk.exists?, Disk.probe]
      split
      · rfl
      · simp only [Disk.find, hv.locate_source, Disk.nodeAt, hv.gone hne]

/-- Before the last step the file is as it was. -/
theorem content_kept (h : Course d p text r d') (hr : r ≠ .ok ())
    (hl : d'.locate p = .ok (some place)) : d'.contentAt place = d.contentAt place := by
  rcases h.node place with hk | hs | ⟨ho, -⟩
  · exact hk.contentAt_eq
  · exact absurd rfl (Disk.locate_temporary_ne hn hu hl hs)
  · exact absurd ho hr

/-- So is what the path names, where it named something before or leads down only. -/
theorem content?_kept (h : Course d p text r d') (hr : r ≠ .ok ())
    (hl : (∃ there, d.locate p = .ok there) ∨ d.Rooted ∧ ".." ∉ p.parts) :
    d'.content? p = d.content? p := by
  cases hd : d.locate p with
  | ok there =>
      have hd' := h.grows.locate hd
      rw [Disk.content?_of_locate hd, Disk.content?_of_locate hd']
      cases there with
      | none => rfl
      | some place => rw [Option.bind_some, Option.bind_some, h.content_kept hn hu hr hd']
  | error e =>
      obtain ⟨hrooted, hdown⟩ := hl.resolve_left (by simp [hd])
      rw [Disk.content?_of_error hd]
      cases hd' : d'.locate p with
      | error e => rw [Disk.content?_of_error hd']
      | ok there =>
          rw [Disk.content?_of_locate hd']
          cases there with
          | none => simp
          | some place =>
              have hnone : d.node? place = none := by
                have ho := Disk.locate_of_sparesFiles hrooted (h.sparesFiles hr) hdown hd'
                rw [hd] at ho
                exact ho.resolve_left (by simp)
              have hc : d'.contentAt place = none := by
                rw [h.content_kept hn hu hr hd', Disk.contentAt, hnone]
              simp [hc]

end Kept

end Course

/-! ## What is raised -/

section Fault

variable {f : FileFault}

/-- A step fails where the system refuses, or for a name that it cannot take, or for a text without
an encoding. -/
theorem writeFile_fault (hn : p.name ≠ "") (h : (writeFile d p text).1 = .error f) :
    f.isSystem = true ∨
      (∃ leading, leading <+: p.parent.parts ∧
        FileFault.ofName? (⟨p.root, leading⟩ : Path).text = some f) ∨
      FileFault.ofName? (temporary p).text = some f ∨
      ∃ e, Text.EncodeFault.find? text.toList = some e ∧ f = .notEncodable e := by
  rw [writeFile] at h
  split at h
  · next hm =>
      cases h
      obtain ⟨leading, hl, hr⟩ := Disk.makeDirectories_fault (congrArg Prod.fst hm)
      exact hr.imp_right fun hr => .inl ⟨leading, hl, hr⟩
  · rw [if_neg hn] at h
    split at h
    · next hw =>
        cases h
        rcases Disk.writeText_fault (congrArg Prod.fst hw) with hr | he
        · exact hr.imp_right fun hr => .inr (.inl hr)
        · exact .inr (.inr (.inr he))
    · split at h
      · next hr =>
          cases h
          exact (Disk.rename_fault hr).imp_right fun hr => .inr (.inl hr)
      · contradiction

/-- Nothing is raised but that a path or a text has no encoding. -/
theorem writeFile_raised (hn : p.name ≠ "") (h0 : '\x00' ∉ p.text.toList)
    (h : (writeFile d p text).1 = .error f) (hf : f.isSystem = false) :
    (∃ e, f = .notEncodable e) ∧
      (FileFault.ofName? (temporary p).text ≠ none ∨
        Text.EncodeFault.find? text.toList ≠ none) := by
  have htmp := text_temporary hn
  rcases writeFile_fault hn h with hs | ⟨leading, hl, hr⟩ | hr | ⟨e, he, rfl⟩
  · rw [hf] at hs
    contradiction
  · have hp : leading <+: p.parts := hl.trans (List.dropLast_prefix _)
    rcases Path.text_leading hp with ⟨rest, ht⟩ | ht
    · refine ⟨?_, .inl fun hnone => ?_⟩
      · refine (FileFault.of_ofName? hr).resolve_right fun hm => h0 ?_
        rw [ht, String.toList_append]
        exact List.mem_append_left _ hm
      · rw [htmp, ht, String.append_assoc] at hnone
        rw [FileFault.ofName?_of_append hnone] at hr
        contradiction
    · rw [ht] at hr
      contradiction
  · refine ⟨?_, .inl (by simp [hr])⟩
    refine (FileFault.of_ofName? hr).resolve_right fun hm => h0 ?_
    rw [htmp, String.toList_append, List.mem_append] at hm
    exact hm.resolve_right (by decide)
  · exact ⟨⟨e, rfl⟩, .inr (by simp [he])⟩

end Fault

/-- What keeps some entries from being saved, but for what the system refuses: they have no text, or
the path or the text has no encoding. -/
inductive Unsavable (p : Path) (entries : OrderedMap String Json) : FileFault → Prop
  | unwritten {f} (h : serialize entries = .error f) : Unsavable p entries (.unwritable f)
  | path {e} (h : FileFault.ofName? (temporary p).text ≠ none) :
      Unsavable p entries (.notEncodable e)
  | text {e text} (h : serialize entries = .ok text)
      (he : Text.EncodeFault.find? text.toList ≠ none) : Unsavable p entries (.notEncodable e)

theorem writeEntries_raised {entries : OrderedMap String Json} {f : FileFault} (hn : p.name ≠ "")
    (h0 : '\x00' ∉ p.text.toList) (h : (writeEntries d p entries).1 = .error f)
    (hf : f.isSystem = false) : Unsavable p entries f := by
  rw [writeEntries] at h
  split at h
  · rename_i f' hs
    cases h
    exact .unwritten hs
  · rename_i text hs
    obtain ⟨⟨e, rfl⟩, hp | ht⟩ := writeFile_raised hn h0 h hf
    · exact .path hp
    · exact .text hs ht

/-- A fault in saving some entries that is not passed over. -/
inductive Unsaved (st : Store) (entries : OrderedMap String Json) : FileFault → Prop
  | raised {p d f} (hf : st.file = some p) (hw : (writeEntries d p entries).1 = .error f)
      (hs : f.isSystem = false) : Unsaved st entries f

theorem Unsaved.file_ne {f : FileFault} {st : Store} {entries : OrderedMap String Json}
    (h : st.Unsaved entries f) : st.file ≠ none := by
  obtain ⟨hp, hw, hs⟩ := h
  simp [hp]

theorem Unsaved.of_file {f : FileFault} {st st' : Store} {entries : OrderedMap String Json}
    (h : st'.Unsaved entries f) (hf : st'.file = st.file) : st.Unsaved entries f := by
  obtain ⟨hp, hw, hs⟩ := h
  exact .raised (hf ▸ hp) hw hs

/-- A change of the entries is saved, or the fault in saving them is the answer. -/
theorem update_answer (st : Store) (d : Disk) (entries : OrderedMap String Json) :
    (st.update d entries).1 = .ok () ∨
      ∃ f, (st.update d entries).1 = .error f ∧ st.Unsaved entries f := by
  rw [update, save]
  dsimp only
  split
  · exact .inl rfl
  · rename_i p hf
    split
    · rename_i f d' hw
      cases hs : f.isSystem with
      | true => exact .inl rfl
      | false => exact .inr ⟨f, rfl, .raised hf (congrArg Prod.fst hw) hs⟩
    · exact .inl rfl

/-! ## Changes -/

/-- The fault of an operation that has failed. -/
def faultOf {α : Type} : Except FileFault α → Option FileFault
  | .error f => some f
  | .ok _ => none

/-- What a change of a store raises, if anything. -/
def Change.raised? : Change → Store → Disk → Option FileFault
  | put k v, st, d => faultOf (st.put d k v).1
  | remove k, st, d => faultOf (st.remove d k).1
  | clear, st, d => faultOf (st.clear d).1
  | others _, _, _ => none

section Change

variable {c : Change} {st : Store} {entries : OrderedMap String Json}

theorem update_saved (hf : st.file = some p) (d : Disk) (entries : OrderedMap String Json) :
    (st.update d entries).2.2 = (writeEntries d p entries).2 ∧
      faultOf (st.update d entries).1 =
        (faultOf (writeEntries d p entries).1).filter fun f => !f.isSystem := by
  simp only [update, save, hf]
  rcases writeEntries d p entries with ⟨f | done, d'⟩
  · cases hs : f.isSystem <;> simp [faultOf, hs, Option.filter_some]
  · exact ⟨rfl, rfl⟩

/-- A change that saves leaves what the save leaves, and raises its fault unless the system is
behind it. -/
theorem Change.saved (hf : st.file = some p) (hs : c.saves? st = some entries) :
    (c.apply (st, d)).2 = (writeEntries d p entries).2 ∧
      c.raised? st d =
        (faultOf (writeEntries d p entries).1).filter fun f => !f.isSystem := by
  have hu := update_saved hf d entries
  cases c with
  | put k v =>
      cases hs
      exact hu
  | remove k =>
      rw [saves?] at hs
      split at hs
      · next hk =>
          cases hs
          rw [apply, raised?, Store.remove, if_pos hk]
          revert hu
          rcases st.update d (st.entries.erase k) with ⟨f | done, st', d'⟩ <;> exact id
      · contradiction
  | clear =>
      cases hs
      exact hu
  | others work => contradiction

end Change

/-- What a save with some outcome leaves of a disk: the whole text and no sibling, or else the content
that the path had. -/
structure AllOrNothing (p : Path) (entries : OrderedMap String Json) (r : Except FileFault Unit)
    (d d' : Disk) : Prop where
  all (h : r = .ok ()) : ∃ text, serialize entries = .ok text ∧
    d'.content? p = some (Text.bytes text) ∧ d'.exists? (temporary p) = .ok false
  -- A path that leads up by a directory that was missing may lead to its file only now.
  nothing (h : r ≠ .ok ())
    (hl : (∃ there, d.locate p = .ok there) ∨ d.Rooted ∧ ".." ∉ p.parts) :
    d'.content? p = d.content? p
  nothingAt (h : r ≠ .ok ()) {place : Place} (hl : d'.locate p = .ok (some place)) :
    d'.contentAt place = d.contentAt place
  others (place : Place) :
    KeptOrMade p.root p.parent.parts d d' place ∨
      d'.locate (temporary p) = .ok (some place) ∨
      r = .ok () ∧ d'.locate p = .ok (some place)
  start : d'.start = d.start
  lost : d'.lost = d.lost
  rooted (hr : d.Rooted) : d'.Rooted

theorem writeEntries_allOrNothing (hn : p.name ≠ "") (hu : p.name ≠ "..") (d : Disk)
    (entries : OrderedMap String Json) :
    AllOrNothing p entries (writeEntries d p entries).1 d (writeEntries d p entries).2 := by
  rw [writeEntries]
  cases hs : serialize entries with
  | error f =>
      refine ⟨fun hr => ?_, fun _ _ => rfl, fun _ _ _ => rfl, fun place => .inl (.inl rfl), rfl, rfl,
        id⟩
      contradiction
  | ok text =>
      have hc := writeFile_course hn d text
      refine ⟨fun hr => ?_, fun hr hl => hc.content?_kept hn hu hr hl,
        fun hr _ hl => hc.content_kept hn hu hr hl, hc.node, hc.grows.start, hc.grows.lost,
        hc.rooted⟩
      have hw : writeFile d p text = (.ok (), (writeFile d p text).2) := Prod.ext hr rfl
      refine ⟨text, hs, ?_, (hr ▸ hc).sibling_gone hn hu⟩
      dsimp only
      rw [Disk.content?, (writeFile_ok hw).2.2]
      rfl

/-- A change of a store with a file replaces the entries in memory, and saves all of the new ones or
none. -/
theorem saved_or_kept {c : Change} {st : Store} {entries : OrderedMap String Json} (d : Disk)
    (hf : st.file = some p) (hn : p.name ≠ "") (hu : p.name ≠ "..")
    (h0 : '\x00' ∉ p.text.toList) (hs : c.saves? st = some entries) :
    let r := (writeEntries d p entries).1
    (c.apply (st, d)).1 = ⟨entries, some p⟩ ∧
    (∀ f, c.raised? st d = some f ↔ r = .error f ∧ f.isSystem = false) ∧
    (∀ f, c.raised? st d = some f → Unsavable p entries f) ∧
    AllOrNothing p entries r d (c.apply (st, d)).2 := by
  intro r
  obtain ⟨hdisk, hfault⟩ := Change.saved (d := d) hf hs
  have hraised : ∀ f, c.raised? st d = some f ↔ r = .error f ∧ f.isSystem = false := by
    intro f
    rw [hfault, Option.filter_eq_some_iff]
    show faultOf r = some f ∧ _ ↔ _
    cases r <;> simp [faultOf]
  refine ⟨?_, hraised, fun f hr => ?_, ?_⟩
  · rw [Change.store_apply, hs, hf]
    rfl
  · obtain ⟨he, hsys⟩ := (hraised f).mp hr
    exact writeEntries_raised hn h0 he hsys
  · rw [hdisk]
    exact writeEntries_allOrNothing hn hu d entries

/-- A file whose directory may be missing. -/
def deepFile : Path :=
  ⟨.slash, ["a", "store.json"]⟩

/-- A disk with this file, and a directory where its sibling would be. -/
def blocked : Disk :=
  (Disk.empty.install deepFile.parts (.file (Text.bytes "\x7b\x7d") false)).install
    (temporary deepFile).parts .directory

def oneEntry : OrderedMap String Json :=
  OrderedMap.ofList [("k", .str "v")]

/-- A save that succeeds, and one that the system refuses. -/
theorem saved_or_kept_put :
    let st : Store := ⟨OrderedMap.empty, some deepFile⟩
    let c : Change := .put "k" (.str "v")
    deepFile.name ≠ "" ∧ deepFile.name ≠ ".." ∧ '\x00' ∉ deepFile.text.toList ∧
      c.saves? st = some oneEntry ∧
      (∃ text, serialize oneEntry = .ok text ∧
        (c.apply (st, .empty)).2.content? deepFile = some (Text.bytes text)) ∧
      (c.apply (st, .empty)).2.Rooted ∧
      (c.apply (st, blocked)).2.content? deepFile = some (Text.bytes "\x7b\x7d") := by
  intro st c
  have hn : deepFile.name ≠ "" := by decide
  have hu : deepFile.name ≠ ".." := by decide
  have h0 : '\x00' ∉ deepFile.text.toList := by decide
  have hs : c.saves? st = some oneEntry := rfl
  obtain ⟨-, -, -, hall⟩ := saved_or_kept Disk.empty rfl hn hu h0 hs
  obtain ⟨-, -, -, hnothing⟩ := saved_or_kept blocked rfl hn hu h0 hs
  have hw : (writeEntries .empty deepFile oneEntry).1 = .ok () := by rfl
  have hb : (writeEntries blocked deepFile oneEntry).1 =
      .error (.system .isDirectory (some "/a/store.json.tmp")) := by rfl
  have hl : blocked.locate deepFile = .ok (some ["a", "store.json"]) := by rfl
  have hold : blocked.content? deepFile = some (Text.bytes "\x7b\x7d") := by rfl
  obtain ⟨text, ht, hc, -⟩ := hall.all hw
  exact ⟨hn, hu, h0, hs, ⟨text, ht, hc⟩, hall.rooted Disk.rooted_empty,
    (hnothing.nothing (by simp [hb]) (.inl ⟨_, hl⟩)).trans hold⟩

/-- A half of a surrogate pair among the entries keeps any change from being saved, and that is
raised. -/
theorem put_raised :
    let st : Store := ⟨OrderedMap.ofList [("a", .str (String.ofList (Text.Code.hold 0xD800)))],
      some ⟨.slash, ["store.json"]⟩⟩
    ∃ e, (Change.put "b" (.str "x")).raised? st .empty = some (.notEncodable e) :=
  ⟨_, rfl⟩

end Store

end CommandShell
