import CommandShell.OrderedMap
import Mathlib.Data.List.Forall2
import Mathlib.Data.Option.Basic

/-!
Laws of maps that remember their order: what is found under a key after a change, and that a map
is made again from its own entries.
-/

namespace CommandShell.OrderedMap

variable {α β : Type} [DecidableEq α] {k : α} {v : β}

omit [DecidableEq α] in
theorem ext_entries {m m' : OrderedMap α β} (h : m.entries = m'.entries) : m = m' := by
  cases m
  cases m'
  cases h
  rfl

theorem insertEntry_of_not_mem {entries : List (α × β)} (h : k ∉ entries.map Prod.fst) :
    insertEntry k v entries = entries ++ [(k, v)] := by
  induction entries with
  | nil => rfl
  | cons e rest ih =>
      rw [List.map_cons, List.mem_cons, not_or] at h
      rw [insertEntry, if_neg (Ne.symm h.1), ih h.2, List.cons_append]

theorem mem_insertEntry {entries : List (α × β)} {e : α × β} (h : e ∈ insertEntry k v entries) :
    e = (k, v) ∨ e ∈ entries := by
  induction entries with
  | nil => exact .inl (List.mem_singleton.1 h)
  | cons first rest ih =>
      rw [insertEntry] at h
      split at h
      · exact (List.mem_cons.1 h).imp_right (List.mem_cons_of_mem _)
      · obtain rfl | hm := List.mem_cons.1 h
        · exact .inr List.mem_cons_self
        · exact (ih hm).imp_right (List.mem_cons_of_mem _)

theorem contains_iff (m : OrderedMap α β) : m.contains k = true ↔ k ∈ m.entries.map Prod.fst := by
  simp [contains]

theorem isSome_get? (m : OrderedMap α β) : (m.get? k).isSome = m.contains k := by
  rw [get?, contains, Option.isSome_map, List.isSome_find?]

theorem contains_insert_iff (m : OrderedMap α β) {k' : α} :
    (m.insert k v).contains k' = true ↔ k' = k ∨ m.contains k' = true := by
  rw [contains_iff, contains_iff]
  exact mem_keys_insertEntry

theorem contains_of_erase {m : OrderedMap α β} {k' : α} (h : (m.erase k).contains k' = true) :
    m.contains k' = true := by
  rw [contains_iff] at h ⊢
  exact (List.Sublist.map _ List.filter_sublist).subset h

theorem get?_insert_self (m : OrderedMap α β) : (m.insert k v).get? k = some v := by
  have hfind : ∀ entries : List (α × β),
      (insertEntry k v entries).find? (fun e => e.1 = k) = some (k, v) := by
    intro entries
    induction entries with
    | nil => simp [insertEntry]
    | cons e rest ih =>
        by_cases he : e.1 = k
        · simp [insertEntry, he]
        · simp [insertEntry, he, ih]
  rw [get?, insert, hfind]
  rfl

theorem get?_insert_of_ne (m : OrderedMap α β) {k' : α} (h : k ≠ k') :
    (m.insert k v).get? k' = m.get? k' := by
  have hfind : ∀ entries : List (α × β),
      (insertEntry k v entries).find? (fun e => e.1 = k') = entries.find? fun e => e.1 = k' := by
    intro entries
    induction entries with
    | nil => simp [insertEntry, h]
    | cons e rest ih =>
        by_cases he : e.1 = k
        · simp [insertEntry, he, h]
        · simp [insertEntry, he, List.find?_cons, ih]
  rw [get?, get?, insert, hfind]

theorem get?_filterKeys (m : OrderedMap α β) (keep : α → Bool) :
    (m.filterKeys keep).get? k = if keep k then m.get? k else none := by
  have hfind : ∀ entries : List (α × β),
      (entries.filter fun e => keep e.1).find? (fun e => e.1 = k) =
        if keep k then entries.find? fun e => e.1 = k else none := by
    intro entries
    induction entries with
    | nil => simp
    | cons e rest ih =>
        by_cases he : e.1 = k
        · cases hk : keep k with
          | true => simp [he, hk]
          | false => simpa [he, hk] using ih
        · cases hk : keep e.1 <;> simp [he, hk, ih]
  rw [get?, get?, filterKeys, hfind]
  split <;> rfl

theorem get?_erase_of_ne (m : OrderedMap α β) {k' : α} (h : k ≠ k') :
    (m.erase k).get? k' = m.get? k' := by
  rw [erase, get?_filterKeys, if_pos (by simpa using Ne.symm h)]

theorem get?_erase_self (m : OrderedMap α β) : (m.erase k).get? k = none := by
  rw [erase, get?_filterKeys, if_neg (by simp)]

theorem get?_mapValues {γ : Type} (m : OrderedMap α β) (f : β → γ) :
    (m.mapValues f).get? k = (m.get? k).map f := by
  simp [get?, mapValues, List.find?_map, Option.map_map, Function.comp_def]

theorem entries_foldl_insert {pairs : List (α × β)} {m : OrderedMap α β}
    (h : ((m.entries ++ pairs).map Prod.fst).Nodup) :
    (pairs.foldl (fun m e => m.insert e.1 e.2) m).entries = m.entries ++ pairs := by
  induction pairs generalizing m with
  | nil => simp
  | cons e rest ih =>
      have hnew : e.1 ∉ m.entries.map Prod.fst := by
        rw [List.map_append, List.nodup_append] at h
        exact fun hm => h.2.2 _ hm e.1 (by simp) rfl
      have hins : (m.insert e.1 e.2).entries = m.entries ++ [e] := insertEntry_of_not_mem hnew
      rw [List.foldl_cons, ih (by rwa [hins, List.append_assoc]), hins, List.append_assoc]
      rfl

/-- A map is made again from its own entries. -/
theorem ofList_entries (m : OrderedMap α β) : ofList m.entries = m :=
  ext_entries (entries_foldl_insert (m := empty) m.nodup)

theorem contains_eq_false (m : OrderedMap α β) :
    m.contains k = false ↔ k ∉ m.entries.map Prod.fst := by
  rw [← contains_iff, Bool.not_eq_true]

theorem erase_of_not_contains {m : OrderedMap α β} (h : m.contains k = false) : m.erase k = m := by
  refine ext_entries (List.filter_eq_self.mpr fun e he => ?_)
  have hk := m.contains_eq_false.mp h
  exact decide_eq_true fun h' => hk (h' ▸ List.mem_map_of_mem (f := Prod.fst) he)

/-- Without its first key a map has its other entries. -/
theorem entries_erase_first {m : OrderedMap α β} {e : α × β} {rest : List (α × β)}
    (h : m.entries = e :: rest) : (m.erase e.1).entries = rest := by
  have hn := m.nodup
  rw [h, List.map_cons, List.nodup_cons] at hn
  have hr : rest.filter (fun e' => e'.1 ≠ e.1) = rest :=
    List.filter_eq_self.mpr fun e' he => decide_eq_true fun hk =>
      hn.1 (hk ▸ List.mem_map_of_mem (f := Prod.fst) he)
  show m.entries.filter (fun e' => e'.1 ≠ e.1) = rest
  rw [h, List.filter_cons_of_neg (by simp), hr]

section Part

variable (keep : α → Bool)

theorem filterKeys_insert (m : OrderedMap α β) :
    (m.insert k v).filterKeys keep =
      if keep k then (m.filterKeys keep).insert k v else m.filterKeys keep := by
  have hlist : ∀ entries : List (α × β),
      (insertEntry k v entries).filter (fun e => keep e.1) =
        if keep k then insertEntry k v (entries.filter fun e => keep e.1)
        else entries.filter fun e => keep e.1 := by
    intro entries
    induction entries with
    | nil => cases hk : keep k <;> simp [insertEntry, hk]
    | cons e rest ih =>
        obtain ⟨k', v'⟩ := e
        by_cases he : k' = k
        · subst he
          cases hk : keep k' <;> simp [insertEntry, hk]
        · cases hk : keep k <;> cases hk' : keep k' <;>
            simpa [insertEntry, he, hk, hk'] using ih
  refine ext_entries ((hlist m.entries).trans ?_)
  split <;> rfl

theorem filterKeys_erase (m : OrderedMap α β) :
    (m.erase k).filterKeys keep = (m.filterKeys keep).erase k :=
  ext_entries (by simp only [erase, filterKeys, List.filter_filter, Bool.and_comm])

end Part

/-! ## Entries -/

theorem get?_of_mem {m : OrderedMap α β} (h : (k, v) ∈ m.entries) : m.get? k = some v := by
  have hfind : ∀ entries : List (α × β), (entries.map Prod.fst).Nodup → (k, v) ∈ entries →
      entries.find? (fun e => e.1 = k) = some (k, v) := by
    intro entries
    induction entries with
    | nil => simp
    | cons e rest ih =>
        intro hn hm
        rw [List.map_cons, List.nodup_cons] at hn
        rcases List.mem_cons.mp hm with rfl | hm
        · simp
        · have hk : e.1 ≠ k := fun he => hn.1 (he ▸ List.mem_map_of_mem (f := Prod.fst) hm)
          rw [List.find?_cons_of_neg (by simpa using hk), ih hn.2 hm]
  rw [get?, hfind _ m.nodup h]
  rfl

theorem mem_of_get? {m : OrderedMap α β} (h : m.get? k = some v) : (k, v) ∈ m.entries := by
  obtain ⟨e, he, rfl⟩ := Option.map_eq_some_iff.mp h
  have hk : e.1 = k := by simpa using List.find?_some he
  exact hk ▸ List.mem_of_find?_eq_some he

section Pairs

variable {pairs : List (α × β)}

theorem mem_foldl_insert {m : OrderedMap α β} {e : α × β}
    (h : e ∈ (pairs.foldl (fun m e => m.insert e.1 e.2) m).entries) :
    e ∈ pairs ∨ e ∈ m.entries := by
  induction pairs generalizing m with
  | nil => exact .inr h
  | cons first rest ih =>
      rcases ih h with hm | hm
      · exact .inl (List.mem_cons_of_mem _ hm)
      · rcases mem_insertEntry hm with rfl | hm
        · exact .inl List.mem_cons_self
        · exact .inr hm

theorem mem_of_mem_ofList {e : α × β} (h : e ∈ (ofList pairs).entries) : e ∈ pairs :=
  (mem_foldl_insert h).resolve_right List.not_mem_nil

theorem contains_foldl_insert (m : OrderedMap α β) :
    (pairs.foldl (fun m e => m.insert e.1 e.2) m).contains k = true ↔
      k ∈ pairs.map Prod.fst ∨ m.contains k = true := by
  induction pairs generalizing m with
  | nil => simp
  | cons first rest ih =>
      rw [List.foldl_cons, ih, contains_insert_iff, List.map_cons, List.mem_cons]
      exact or_left_comm.trans or_assoc.symm

theorem contains_ofList : (ofList pairs).contains k = true ↔ k ∈ pairs.map Prod.fst := by
  rw [ofList, contains_foldl_insert]
  exact or_iff_left Bool.false_ne_true

end Pairs

section Values

variable {γ : Type} (f : β → γ)

theorem mapValues_insert (m : OrderedMap α β) :
    (m.insert k v).mapValues f = (m.mapValues f).insert k (f v) := by
  refine ext_entries ?_
  simp only [mapValues, insert]
  induction m.entries with
  | nil => rfl
  | cons e rest ih =>
      by_cases he : e.1 = k
      · simp [insertEntry, he]
      · simp [insertEntry, he, ih]

theorem mapValues_ofList (pairs : List (α × β)) :
    (ofList pairs).mapValues f = ofList (pairs.map fun e => (e.1, f e.2)) := by
  have hfold : ∀ m : OrderedMap α β,
      (pairs.foldl (fun m e => m.insert e.1 e.2) m).mapValues f =
        (pairs.map fun e => (e.1, f e.2)).foldl (fun m e => m.insert e.1 e.2) (m.mapValues f) := by
    induction pairs with
    | nil => exact fun m => rfl
    | cons first rest ih => exact fun m => by rw [List.foldl_cons, ih, mapValues_insert]; rfl
  exact hfold empty

end Values

section Matching

variable {γ : Type} {R : β → γ → Prop} {m : OrderedMap α β} {m' : OrderedMap α γ}
  {es : List (α × β)} {es' : List (α × γ)}

/-- Whether two entries have the same key and related values. -/
def Corresponds (R : β → γ → Prop) (e : α × β) (e' : α × γ) : Prop :=
  e.1 = e'.1 ∧ R e.2 e'.2

/-- Whether two maps have the same keys in the same order, with related values under them. -/
def Matching (R : β → γ → Prop) (m : OrderedMap α β) (m' : OrderedMap α γ) : Prop :=
  List.Forall₂ (Corresponds R) m.entries m'.entries

omit [DecidableEq α] in
theorem matching_empty : Matching R (empty : OrderedMap α β) empty :=
  .nil

omit [DecidableEq α] in
theorem corresponds_keys (h : List.Forall₂ (Corresponds R) es es') :
    es'.map Prod.fst = es.map Prod.fst := by
  induction h with
  | nil => rfl
  | cons he _ ih => rw [List.map_cons, List.map_cons, he.1, ih]

theorem corresponds_insertEntry {w : γ} (h : List.Forall₂ (Corresponds R) es es') (hr : R v w) :
    List.Forall₂ (Corresponds R) (insertEntry k v es) (insertEntry k w es') := by
  induction h with
  | nil => exact .cons ⟨rfl, hr⟩ .nil
  | @cons e e' es es' he hes ih =>
      obtain ⟨k', v'⟩ := e
      obtain ⟨_, w'⟩ := e'
      obtain ⟨rfl, hr'⟩ := he
      rw [insertEntry, insertEntry]
      split
      · exact .cons ⟨rfl, hr⟩ hes
      · exact .cons ⟨rfl, hr'⟩ ih

theorem Matching.insert {w : γ} (h : Matching R m m') (hr : R v w) :
    Matching R (m.insert k v) (m'.insert k w) :=
  corresponds_insertEntry h hr

omit [DecidableEq α] in
theorem corresponds_filter (h : List.Forall₂ (Corresponds R) es es') (keep : α → Bool) :
    List.Forall₂ (Corresponds R) (es.filter fun e => keep e.1) (es'.filter fun e => keep e.1) := by
  induction h with
  | nil => exact .nil
  | cons he hes ih =>
      rw [List.filter_cons, List.filter_cons, ← he.1]
      split
      · exact .cons he ih
      · exact ih

theorem Matching.erase (h : Matching R m m') (k : α) : Matching R (m.erase k) (m'.erase k) :=
  corresponds_filter h fun x => x ≠ k

theorem corresponds_find? (h : List.Forall₂ (Corresponds R) es es') (k : α) :
    Option.Rel (Corresponds R) (es.find? fun e => e.1 = k) (es'.find? fun e => e.1 = k) := by
  induction h with
  | nil => exact .none
  | cons he hes ih =>
      rw [List.find?_cons, List.find?_cons, ← he.1]
      split
      · exact .some he
      · exact ih

/-- What is found under a key in the one map is related to what is found in the other. -/
theorem Matching.get? (h : Matching R m m') (k : α) : Option.Rel R (m.get? k) (m'.get? k) := by
  have hf := corresponds_find? h k
  rw [OrderedMap.get?, OrderedMap.get?]
  generalize m.entries.find? (fun e => e.1 = k) = e?,
    m'.entries.find? (fun e => e.1 = k) = e?' at hf
  cases hf with
  | none => exact .none
  | some he => exact .some he.2

theorem Matching.contains (h : Matching R m m') (k : α) : m'.contains k = m.contains k := by
  have hg := h.get? k
  rw [← isSome_get?, ← isSome_get?]
  generalize m.get? k = v?, m'.get? k = w? at hg
  cases hg with
  | none => rfl
  | some => rfl

end Matching

end CommandShell.OrderedMap
