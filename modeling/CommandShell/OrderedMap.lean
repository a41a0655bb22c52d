/-!
Finite maps that remember the order in which their keys were first inserted. Overwriting a key
keeps its place; removing and inserting it again moves it to the end.
-/

namespace CommandShell

structure OrderedMap (α β : Type) where
  entries : List (α × β)
  nodup : (entries.map Prod.fst).Nodup

namespace OrderedMap

variable {α β : Type} [DecidableEq α]

/-- Overwrites the first entry of a key, or adds one at the end. -/
def insertEntry (k : α) (v : β) : List (α × β) → List (α × β)
  | [] => [(k, v)]
  | (k', v') :: rest => if k' = k then (k, v) :: rest else (k', v') :: insertEntry k v rest

theorem mem_keys_insertEntry {k x : α} {v : β} {entries : List (α × β)} :
    x ∈ (insertEntry k v entries).map Prod.fst ↔ x = k ∨ x ∈ entries.map Prod.fst := by
  induction entries with
  | nil => simp [insertEntry]
  | cons e rest ih =>
      obtain ⟨k', v'⟩ := e
      by_cases h : k' = k
      · simp [insertEntry, h]
      · simp only [insertEntry, h, if_false, List.map_cons, List.mem_cons, ih]
        exact or_left_comm

theorem nodup_insertEntry (k : α) (v : β) {entries : List (α × β)}
    (h : (entries.map Prod.fst).Nodup) : ((insertEntry k v entries).map Prod.fst).Nodup := by
  induction entries with
  | nil => simp [insertEntry]
  | cons e rest ih =>
      obtain ⟨k', v'⟩ := e
      rw [List.map_cons, List.nodup_cons] at h
      by_cases hk : k' = k
      · subst hk
        simpa [insertEntry] using h
      · rw [insertEntry, if_neg hk, List.map_cons, List.nodup_cons, mem_keys_insertEntry]
        exact ⟨fun hm => hm.elim hk h.1, ih h.2⟩

def empty : OrderedMap α β :=
  ⟨[], List.nodup_nil⟩

instance : Inhabited (OrderedMap α β) :=
  ⟨empty⟩

instance [DecidableEq β] : DecidableEq (OrderedMap α β) := fun a b =>
  decidable_of_iff (a.entries = b.entries)
    ⟨fun h => by cases a; cases b; cases h; rfl, fun h => h ▸ rfl⟩

def insert (m : OrderedMap α β) (k : α) (v : β) : OrderedMap α β :=
  ⟨insertEntry k v m.entries, nodup_insertEntry k v m.nodup⟩

def get? (m : OrderedMap α β) (k : α) : Option β :=
  (m.entries.find? fun e => e.1 = k).map Prod.snd

def contains (m : OrderedMap α β) (k : α) : Bool :=
  m.entries.any fun e => e.1 = k

/-- Keeps the entries whose key passes a test. -/
def filterKeys (m : OrderedMap α β) (keep : α → Bool) : OrderedMap α β :=
  ⟨m.entries.filter fun e => keep e.1,
    List.Nodup.sublist (List.Sublist.map _ List.filter_sublist) m.nodup⟩

def erase (m : OrderedMap α β) (k : α) : OrderedMap α β :=
  m.filterKeys fun x => x ≠ k

def size (m : OrderedMap α β) : Nat :=
  m.entries.length

def isEmpty (m : OrderedMap α β) : Bool :=
  m.entries.isEmpty

def keys (m : OrderedMap α β) : List α :=
  m.entries.map Prod.fst

def values (m : OrderedMap α β) : List β :=
  m.entries.map Prod.snd

def mapValues {γ : Type} (m : OrderedMap α β) (f : β → γ) : OrderedMap α γ :=
  ⟨m.entries.map fun e => (e.1, f e.2), by
    simpa [List.map_map, Function.comp_def] using m.nodup⟩

/-- Later pairs overwrite earlier ones. -/
def ofList (pairs : List (α × β)) : OrderedMap α β :=
  pairs.foldl (fun m e => m.insert e.1 e.2) empty

end OrderedMap

end CommandShell
