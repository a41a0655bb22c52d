import CommandShell.Proofs.Files.Replace
import CommandShell.Proofs.Json.RoundTrip

/-!
A store that is opened again. A change that is saved leaves a file from which the same entries are
read, and one that is not saved leaves the entries and the file alone.
-/

namespace CommandShell.Store

/-! ## Saving and opening -/

/-- The file holds the entries of the store. -/
structure Mirrored (p : Path) (st : Store) (d : Disk) : Prop where
  file : st.file = some p
  exists_ : d.exists? p = .ok true
  content : ∃ text, serialize st.entries = .ok text ∧ d.readBytes p = .ok (Text.bytes text) ∧
    Text.EncodeFault.find? text.toList = none

variable {p : Path} {st : Store} {d d' : Disk} {entries : OrderedMap String Json} {text : String}

theorem toList_of_serialize (h : serialize entries = .ok text) :
    text.toList = Json.Writer.value .indented 0 (.obj entries.entries) := by
  rw [serialize, Json.write] at h
  split at h
  · cases h
    exact String.toList_ofList
  · contradiction

theorem writeEntries_ok (h : writeEntries d p entries = (.ok (), d')) :
    ∃ text, serialize entries = .ok text ∧ writeFile d p text = (.ok (), d') := by
  rw [writeEntries] at h
  split at h
  · cases h
  · exact ⟨_, ‹_›, h⟩

theorem update_of_writeEntries (hf : st.file = some p)
    (hw : writeEntries d p entries = (.ok (), d')) :
    st.update d entries = (.ok (), ⟨entries, some p⟩, d') := by
  simp [update, save, hf, hw]

/-- The entries are replaced whether they can be saved or not. -/
theorem update_store (st : Store) (d : Disk) (entries : OrderedMap String Json) :
    (st.update d entries).2.1 = ⟨entries, st.file⟩ :=
  rfl

theorem mirrored_of_writeEntries (hw : writeEntries d p entries = (.ok (), d')) :
    Mirrored p ⟨entries, some p⟩ d' := by
  obtain ⟨text, ht, hw⟩ := writeEntries_ok hw
  obtain ⟨hcodes, hexists, hbytes⟩ := writeFile_ok hw
  exact ⟨rfl, hexists, text, ht, hbytes, hcodes⟩

theorem unaltered_serialize (ht : serialize entries = .ok text)
    (h : Json.Portable (.obj entries.entries)) : Text.Unaltered text.toList := by
  rw [toList_of_serialize ht]
  exact Json.Writer.unaltered_value _ h .indented 0

theorem read_serialize {bound : Json.Bound} (ht : serialize entries = .ok text)
    (h : Json.Portable (.obj entries.entries))
    (hf : Json.Reader.Fits bound (Json.obj entries.entries).depth) :
    Json.read bound text = .ok (.obj entries.entries) := by
  have hl := toList_of_serialize ht
  have hhead : text.toList.head? ≠ some '\ufeff' := by
    rw [hl]
    cases entries.entries with
    | nil => simp [Json.Writer.value]
    | cons e rest => simp [Json.Writer.value]
  rw [Json.read, if_neg hhead, hl]
  exact Json.readText_value h hf .indented 0

/-- Where there is room for its depth, a map is read as it was saved. -/
theorem load_serialized {bound : Json.Bound} (ht : serialize entries = .ok text)
    (hc : d.readBytes p = .ok (Text.bytes text)) (he : Text.EncodeFault.find? text.toList = none)
    (hp : Json.Portable (.obj entries.entries))
    (hf : Json.Reader.Fits bound (Json.obj entries.entries).depth) :
    load bound d p = .ok entries := by
  have htext := unaltered_serialize ht hp
  have hsame : Text.unifyNewlines text = text := by
    rw [Text.unifyNewlines, Text.Chars.unifyNewlines_eq_self htext.2, String.ofList_toList]
  have hread : d.readText p = .ok text := by
    rw [Disk.readText, hc]
    simp only [Text.Utf8.decode_bytes htext.1 he]
  rw [load, hread]
  simp only [hsame, read_serialize ht hp hf, OrderedMap.ofList_entries]

/-- Where there is room for its depth, a store is opened as its file has it. -/
theorem open_of_mirrored (h : Mirrored p st d) (hp : Json.Portable (.obj st.entries.entries))
    {r : Room} (hr : ∀ levels ∈ r,
      openingLevels + Json.readingLevels + (Json.obj st.entries.entries).depth ≤ levels) :
    open_ r d (some p) = .ok st := by
  have hfits : Json.Reader.Fits (.ofRoom (r.above openingLevels))
      (Json.obj st.entries.entries).depth := by
    intro bound hbound
    cases r with
    | none => contradiction
    | some levels =>
        have hlevels := hr levels rfl
        cases hbound
        show _ ≤ levels - openingLevels - Json.readingLevels
        omega
  obtain ⟨text, ht, hc, he⟩ := h.content
  rw [open_]
  simp only [h.exists_, load_serialized ht hc he hp hfits, ← h.file]

/-! ## Changes -/

/-- Something that happens to a store or to the disk that its file is on. -/
inductive Change
  | put (k : String) (v : Json)
  | remove (k : String)
  | clear
  | others (work : Disk → Disk)

namespace Change

def apply : Change → Store × Disk → Store × Disk
  | put k v, (st, d) => (st.put d k v).2
  | remove k, (st, d) => (st.remove d k).2
  | clear, (st, d) => (st.clear d).2
  | others work, (st, d) => (st, work d)

/-- The entries that a change saves, unless it changes none. -/
def saves? : Change → Store → Option (OrderedMap String Json)
  | put k v, st => some (st.entries.insert k v)
  | remove k, st => if st.contains k then some (st.entries.erase k) else none
  | clear, _ => some OrderedMap.empty
  | others _, _ => none

/-- Whether only what a file keeps is put in. -/
def Portable : Change → Prop
  | put k v => Text.IsText k.toList ∧ v.Portable
  | _ => True

/-- What a change saves is written, and others leave the file as it is. -/
def Succeeds (p : Path) (st : Store) (d : Disk) : Change → Prop
  | others work => (work d).exists? p = d.exists? p ∧ (work d).readBytes p = d.readBytes p
  | c => ∀ entries ∈ c.saves? st, (writeEntries d p entries).1 = .ok ()

variable {c : Change}

theorem succeeds_of_isOk (h : c.saves? st = some entries)
    (hw : (writeEntries d p entries).1.isOk = true) : c.Succeeds p st d := by
  have hok : (writeEntries d p entries).1 = .ok () := by
    cases hr : (writeEntries d p entries).1 with
    | error e => simp [hr, Except.isOk, Except.toBool] at hw
    | ok => rfl
  cases c with
  | others work => contradiction
  | _ =>
      intro saved hs
      rw [h] at hs
      cases hs
      exact hok

theorem apply_of_saves? (hf : st.file = some p) (hs : c.Succeeds p st d)
    (h : c.saves? st = some entries) :
    ∃ d', writeEntries d p entries = (.ok (), d') ∧
      c.apply (st, d) = (⟨entries, some p⟩, d') := by
  have hw : writeEntries d p entries
      = (.ok (), (writeEntries d p entries).2) := by
    cases c with
    | others work => contradiction
    | _ => exact Prod.ext (hs entries h) rfl
  refine ⟨_, hw, ?_⟩
  have hu := update_of_writeEntries hf hw
  cases c with
  | put k v =>
      cases h
      rw [apply, Store.put, hu]
  | remove k =>
      rw [saves?] at h
      split at h
      · next hk =>
          cases h
          rw [apply, Store.remove, if_pos hk, hu]
      · contradiction
  | clear =>
      cases h
      rw [apply, Store.clear, hu]
  | others work => contradiction

/-- Only others change anything without saving it. -/
theorem apply_of_not_saves? (h : c.saves? st = none) :
    c.apply (st, d) = (st, d) ∨ ∃ work, c = .others work := by
  cases c with
  | put k v => contradiction
  | remove k =>
      rw [saves?] at h
      split at h
      · contradiction
      · next hk => exact .inl (by rw [apply, Store.remove, if_neg hk])
  | clear => contradiction
  | others work => exact .inr ⟨work, rfl⟩

theorem mirrored_apply (hf : st.file = some p) (hs : c.Succeeds p st d)
    (h : Mirrored p st d ∨ (c.saves? st).isSome) :
    Mirrored p (c.apply (st, d)).1 (c.apply (st, d)).2 := by
  cases hsaves : c.saves? st with
  | some entries =>
      obtain ⟨d', hw, happly⟩ := apply_of_saves? hf hs hsaves
      rw [happly]
      exact mirrored_of_writeEntries hw
  | none =>
      have hm : Mirrored p st d := h.resolve_right (by simp [hsaves])
      obtain he | ⟨work, rfl⟩ := apply_of_not_saves? (d := d) hsaves
      · rw [he]
        exact hm
      · obtain ⟨text, ht, hc, he⟩ := hm.content
        exact ⟨hm.file, hs.1.trans hm.exists_, text, ht, hs.2.trans hc, he⟩

theorem store_apply (c : Change) (st : Store) (d : Disk) :
    (c.apply (st, d)).1 = ⟨(c.saves? st).getD st.entries, st.file⟩ := by
  cases c with
  | put k v => exact update_store st d _
  | remove k =>
      rw [apply, Store.remove, saves?]
      split
      · have hu := update_store st d (st.entries.erase k)
        split
        · next hr => rwa [hr] at hu
        · next hr => rwa [hr] at hu
      · rfl
  | clear => exact update_store st d _
  | others work => rfl

/-- What is there after a change was there before, or is put in by it. -/
theorem mem_apply (hc : c.Portable) {e : String × Json}
    (he : e ∈ (c.apply (st, d)).1.entries.entries) :
    e ∈ st.entries.entries ∨ Text.IsText e.1.toList ∧ e.2.Portable := by
  rw [store_apply] at he
  cases c with
  | put k v =>
      obtain rfl | hm := OrderedMap.mem_insertEntry he
      · exact .inr hc
      · exact .inl hm
  | remove k =>
      rw [saves?] at he
      split at he
      · exact .inl (List.mem_filter.1 he).1
      · exact .inl he
  | clear => contradiction
  | others work => exact .inl he

/-! ## Sequences of changes -/

/-- The changes one after the other. -/
def run (changes : List Change) (s : Store × Disk) : Store × Disk :=
  changes.foldl (fun s c => c.apply s) s

/-- Whether each change succeeds in its turn. -/
def Undisturbed (p : Path) : List Change → Store × Disk → Prop
  | [], _ => True
  | c :: rest, s => c.Succeeds p s.1 s.2 ∧ Undisturbed p rest (c.apply s)

/-- Whether some change saves something. -/
def Mutates : List Change → Store × Disk → Prop
  | [], _ => False
  | c :: rest, s => (c.saves? s.1).isSome ∨ Mutates rest (c.apply s)

/-- From the first change that is saved on, the file holds the entries. -/
theorem run_mirrored {changes : List Change} {s : Store × Disk} (hf : s.1.file = some p)
    (hu : Undisturbed p changes s) (h : Mirrored p s.1 s.2 ∨ Mutates changes s) :
    Mirrored p (run changes s).1 (run changes s).2 := by
  induction changes generalizing s with
  | nil => exact h.resolve_right id
  | cons c rest ih =>
      obtain ⟨st, d⟩ := s
      obtain ⟨hs, hu⟩ := hu
      have hf' : (c.apply (st, d)).1.file = some p := by rwa [store_apply]
      refine ih hf' hu ?_
      obtain hm | hsome | hlater := h
      · exact .inl (mirrored_apply hf hs (.inl hm))
      · exact .inl (mirrored_apply hf hs (.inr hsome))
      · exact .inr hlater

theorem mem_run {changes : List Change} {s : Store × Disk} (hc : ∀ c ∈ changes, c.Portable)
    {e : String × Json} (he : e ∈ (run changes s).1.entries.entries) :
    e ∈ s.1.entries.entries ∨ Text.IsText e.1.toList ∧ e.2.Portable := by
  induction changes generalizing s with
  | nil => exact .inl he
  | cons c rest ih =>
      obtain hm | hp := ih (fun c hm => hc c (List.mem_cons_of_mem _ hm)) he
      · exact mem_apply (hc c List.mem_cons_self) hm
      · exact .inr hp

end Change

/-- A store that is opened on the file of another one is that one. `hentries` keeps out what the old
file left, floats included. -/
theorem reopened_unchanged {changes : List Change} (hfile : st.file = some p)
    (hchanges : ∀ c ∈ changes, c.Portable) (hundisturbed : Change.Undisturbed p changes (st, d))
    (hmutates : Change.Mutates changes (st, d))
    (hentries : ∀ e ∈ (Change.run changes (st, d)).1.entries.entries,
      e ∈ st.entries.entries → Text.IsText e.1.toList ∧ e.2.Portable)
    {r : Room} (hr : ∀ levels ∈ r, openingLevels + Json.readingLevels
      + (Json.obj (Change.run changes (st, d)).1.entries.entries).depth ≤ levels) :
    open_ r (Change.run changes (st, d)).2 (some p) = .ok (Change.run changes (st, d)).1 := by
  have hportable : Json.Portable (.obj (Change.run changes (st, d)).1.entries.entries) := by
    refine ⟨OrderedMap.nodup _, Json.portableFields_iff.2 fun e he => ?_⟩
    exact (Change.mem_run hchanges he).elim (hentries e he) id
  exact open_of_mirrored (Change.run_mirrored hfile hundisturbed (.inr hmutates)) hportable hr

/-- A value that was put in under a key takes the place of the one before it. -/
theorem reopened_unchanged_overwritten :
    open_ none
        (Change.run [.put "a" (.int (-5)), .put "b" (.arr [.null, .obj [("", .bool true)]]),
          .put "a" (.str "\"\\\r\u2028")]
          (⟨OrderedMap.empty, some ⟨.slash, ["store.json"]⟩⟩, Disk.empty)).2
        (some ⟨.slash, ["store.json"]⟩)
      = .ok ⟨OrderedMap.ofList
          [("a", .str "\"\\\r\u2028"), ("b", .arr [.null, .obj [("", .bool true)]])],
        some ⟨.slash, ["store.json"]⟩⟩ := by
  have htext : ∀ s ∈ ["a", "b", "", "\"\\\r\u2028"], Text.IsText s.toList := by
    have hall : ∀ s ∈ ["a", "b", "", "\"\\\r\u2028"],
        s.toList.all (fun c => c.toNat < Text.Code.setAside) = true := by decide
    exact fun s hs => .of_all (hall s hs)
  have hnumber : Json.Portable (.int (-5)) := by
    show (Nat.toDigits 10 5).length ≤ Json.maxDigits
    decide
  have hlist : Json.Portable (.arr [.null, .obj [("", .bool true)]]) :=
    ⟨trivial, ⟨by simp, htext _ (by simp), trivial, trivial⟩, trivial⟩
  refine Eq.trans (reopened_unchanged ?_ ?_ ?_ ?_ ?_ ?_) ?_
  · rfl
  · refine List.forall_mem_cons.2 ⟨⟨htext _ (by simp), hnumber⟩, ?_⟩
    refine List.forall_mem_cons.2 ⟨⟨htext _ (by simp), hlist⟩, ?_⟩
    exact List.forall_mem_singleton.2 ⟨htext _ (by simp), htext _ (by simp)⟩
  · refine ⟨?_, ?_, ?_, trivial⟩
    all_goals exact Change.succeeds_of_isOk rfl (by decide +kernel)
  · exact .inl rfl
  · exact fun _ _ he => absurd he List.not_mem_nil
  · simp
  · rfl

end CommandShell.Store
