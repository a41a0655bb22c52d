import CommandShell.Proofs.Builtin.Still
import CommandShell.Proofs.Store.Saving

/-!
What the operations of a session on its store come to: new entries take the place of the old ones,
and if they cannot be saved for another reason than the system's that is the answer.
-/

namespace CommandShell

namespace Session

variable {α : Type} {x : Session}

/-- What a change of the store to some entries comes to. -/
structure Saves (x : Session) (entries : OrderedMap String Json) (a : α)
    (out : Except Fault α × Session) : Prop where
  state : ∃ disk, out.2 = { x with store := ⟨entries, x.store.file⟩, disk }
  answer : out.1 = .ok a ∨ ∃ f, out.1 = .error (.file f) ∧ x.store.Unsaved entries f

theorem Saves.store {entries : OrderedMap String Json} {a : α} {out : Except Fault α × Session}
    (h : x.Saves entries a out) : out.2.store = ⟨entries, x.store.file⟩ := by
  obtain ⟨disk, hd⟩ := h.state
  rw [hd]

theorem Saves.map {β : Type} {entries : OrderedMap String Json} {a : α}
    {out : Except Fault α × Session} (h : x.Saves entries a out) (g : α → β) :
    x.Saves entries (g a) (out.map (Except.map g) id) := by
  refine ⟨h.state, ?_⟩
  rcases h.answer with ha | ⟨f, ha, hu⟩
  · exact .inl (by rw [Prod.map_fst, ha, Except.map])
  · exact .inr ⟨f, by rw [Prod.map_fst, ha, Except.map], hu⟩

theorem onStore_snd (x : Session)
    (operation : Store → Disk → Except FileFault α × Store × Disk) :
    (x.onStore operation).2 =
      { x with
        store := (operation x.store x.disk).2.1, disk := (operation x.store x.disk).2.2 } := by
  rw [onStore]
  rcases operation x.store x.disk with ⟨f | a, store, disk⟩ <;> rfl

theorem onStore_saves {operation : Store → Disk → Except FileFault α × Store × Disk}
    {entries : OrderedMap String Json} {a : α}
    (hs : (operation x.store x.disk).2.1 = ⟨entries, x.store.file⟩)
    (ha : (operation x.store x.disk).1 = .ok a ∨
      ∃ f, (operation x.store x.disk).1 = .error f ∧ x.store.Unsaved entries f) :
    x.Saves entries a (x.onStore operation) := by
  refine ⟨⟨(operation x.store x.disk).2.2, ?_⟩, ?_⟩
  · rw [onStore_snd, hs]
  · rw [onStore]
    revert ha
    rcases operation x.store x.disk with ⟨f | b, store, disk⟩
    · rintro (h | ⟨f', h, hu⟩)
      · cases h
      · cases h
        exact .inr ⟨f, rfl, hu⟩
    · rintro (h | ⟨f, h, -⟩)
      · cases h
        exact .inl rfl
      · cases h

theorem put_saves (x : Session) (k : String) (v : Json) :
    x.Saves (x.store.entries.insert k v) () (x.put k v) :=
  onStore_saves (Store.update_store _ _ _) (Store.update_answer _ _ _)

theorem clearStore_saves (x : Session) : x.Saves .empty () x.clearStore :=
  onStore_saves (Store.update_store _ _ _) (Store.update_answer _ _ _)

theorem remove_saves (x : Session) (k : String) :
    x.Saves (x.store.entries.erase k) (x.store.contains k) (x.remove k) := by
  cases hk : x.store.contains k with
  | false =>
      refine onStore_saves ?_ (.inl ?_)
      · rw [Store.remove, hk, OrderedMap.erase_of_not_contains hk]
        rfl
      · rw [Store.remove, hk]
        rfl
  | true =>
      have hu := x.store.update_answer x.disk (x.store.entries.erase k)
      refine onStore_saves ?_ ?_
      · have hs := Store.Change.store_apply (.remove k) x.store x.disk
        rw [Store.Change.saves?, if_pos hk] at hs
        exact hs
      · rw [Store.remove, if_pos hk]
        revert hu
        rcases x.store.update x.disk (x.store.entries.erase k) with ⟨f | done, st, d⟩
        · rintro (h | ⟨f', h, hu⟩)
          · cases h
          · cases h
            exact .inr ⟨f, rfl, hu⟩
        · exact fun _ => .inl rfl

/-! ## What is left where saving fails -/

/-- A failure that leaves other entries in the store than were there, because they cannot be saved,
and the rest of the session as it was but for the disk. -/
inductive Spoils (x : Session) : Fault → Session → Prop
  | unsaved {f entries disk} (h : x.store.Unsaved entries f) :
      Spoils x (.file f) { x with store := ⟨entries, x.store.file⟩, disk }

theorem Saves.spoils {entries : OrderedMap String Json} {a : α} {out : Except Fault α × Session}
    {f : Fault} (h : x.Saves entries a out) (hf : out.1 = .error f) : x.Spoils f out.2 := by
  obtain ⟨disk, hd⟩ := h.state
  rcases h.answer with ha | ⟨g, ha, hu⟩
  · exact nomatch ha.symm.trans hf
  · cases ha.symm.trans hf
    rw [hd]
    exact .unsaved hu

/-- What spoils the store after a change of it spoils it before as well. -/
theorem Saves.before {entries : OrderedMap String Json} {a : α} {out : Except Fault α × Session}
    {f : Fault} {z : Session} (h : x.Saves entries a out) (hz : out.2.Spoils f z) :
    x.Spoils f z := by
  obtain ⟨disk, hd⟩ := h.state
  rw [hd] at hz
  cases hz with
  | unsaved hu => exact .unsaved (hu.of_file rfl)

/-- A key that is not there is removed without any change. -/
theorem remove_false {k : String} (h : (x.remove k).1 = .ok false) : x.Alike (x.remove k).2 := by
  have hs := x.remove_saves k
  obtain ⟨disk, hd⟩ := hs.state
  have hk : x.store.contains k = false := by
    rcases hs.answer with ha | ⟨f, ha, -⟩
    · exact Except.ok.inj (ha.symm.trans h)
    · exact nomatch ha.symm.trans h
  rw [OrderedMap.erase_of_not_contains hk] at hd
  rw [hd]
  exact ⟨rfl, rfl, rfl, rfl, rfl⟩

theorem removeAll_spoils {keys : List String} {f : Fault} (h : (x.removeAll keys).1 = .error f) :
    x.Spoils f (x.removeAll keys).2 := by
  induction keys generalizing x with
  | nil => contradiction
  | cons k rest ih =>
      have hs := x.remove_saves k
      rw [removeAll] at h ⊢
      cases hr : x.remove k with
      | mk o y =>
          rw [hr] at hs h
          cases o with
          | error g =>
              cases h
              exact hs.spoils rfl
          | ok there => exact hs.before (ih h)

/-- Removing all aliases fails before it begins if one has no text, or else where it cannot save. -/
theorem clearAliases_error {f : Fault} {y : Session} (h : x.clearAliases = (.error f, y)) :
    y = x ∨ x.Spoils f y := by
  rw [clearAliases] at h
  split at h
  · cases h
    exact .inl rfl
  · dsimp only at h
    split at h
    · rename_i hr
      cases h
      have hs := removeAll_spoils (congrArg Prod.fst hr)
      rw [hr] at hs
      exact .inr hs
    · cases h

end Session

end CommandShell
