import CommandShell.Proofs.Alias.Walk
import CommandShell.Proofs.Command.Session
import CommandShell.Startup

/-!
Aliases as a map of their own. Their entries and the others are two maps that share a store, apart
by the start of their keys. Whatever is done to the one leaves the other as it was, and the aliases
change as a map from names to texts does. A clearing is cut short where some removal cannot be saved,
and is not begun where an alias has no text.
-/

namespace CommandShell

namespace Alias

variable {entries : Entries} {k name : String} {v : Json}

/-! ## Two maps in one -/

/-- Whether a key is one of those that aliases are kept under. -/
def IsKey (k : String) : Prop :=
  keyStart.toList <+: k.toList

instance : DecidablePred IsKey := fun k =>
  inferInstanceAs (Decidable (keyStart.toList <+: k.toList))

theorem nameOf?_key (name : String) : nameOf? (key name) = some name := by
  have hl : (key name).toList = keyStart.toList ++ name.toList := String.toList_append
  have hp : keyStart.toList.isPrefixOf (key name).toList = true := by
    rw [List.isPrefixOf_iff_prefix, hl]
    exact List.prefix_append _ _
  have hd : (key name).toList.drop keyStart.length = name.toList := by
    rw [hl]
    exact List.drop_left
  rw [nameOf?, if_pos hp, hd, String.ofList_toList]

theorem isKey_iff : IsKey k ↔ ∃ name, k = key name := by
  constructor
  · rintro ⟨rest, hr⟩
    refine ⟨String.ofList rest, String.toList_injective ?_⟩
    rw [← hr, key, String.toList_append, String.toList_ofList]
  · rintro ⟨name, rfl⟩
    rw [IsKey, key, String.toList_append]
    exact List.prefix_append _ _

theorem nameOf?_eq_some : nameOf? k = some name ↔ k = key name := by
  refine ⟨fun h => ?_, fun h => h ▸ nameOf?_key name⟩
  by_cases hk : IsKey k
  · obtain ⟨name', rfl⟩ := isKey_iff.mp hk
    rw [nameOf?_key] at h
    rw [Option.some.inj h]
  · rw [nameOf?, if_neg fun hp => hk (List.isPrefixOf_iff_prefix.mp hp)] at h
    contradiction

theorem nameOf?_eq_none : nameOf? k = none ↔ ¬IsKey k := by
  rw [isKey_iff, Option.eq_none_iff_forall_ne_some]
  simp only [ne_eq, nameOf?_eq_some, not_exists]

/-- The entries that are no aliases. -/
def others (entries : Entries) : Entries :=
  entries.filterKeys fun k => !decide (IsKey k)

theorem stored_nodup (entries : Entries) : ((stored entries).map Prod.fst).Nodup := by
  have hnames : (stored entries).map Prod.fst =
      (entries.entries.map Prod.fst).filterMap nameOf? := by
    simp [stored, List.map_filterMap, List.filterMap_map, Function.comp_def]
  rw [hnames]
  refine entries.nodup.filterMap fun k k' name h h' => ?_
  rw [nameOf?_eq_some.mp h, nameOf?_eq_some.mp h']

/-- What is stored for all aliases under their names. -/
def values (entries : Entries) : OrderedMap String Json :=
  ⟨stored entries, stored_nodup entries⟩

/-! ## What is found -/

theorem contains_values (entries : Entries) (name : String) :
    (values entries).contains name = isAlias entries name := by
  rw [Bool.eq_iff_iff, isAlias, OrderedMap.contains_iff, OrderedMap.contains_iff]
  simp [values, stored, nameOf?_eq_some]

theorem get?_values (entries : Entries) (name : String) :
    (values entries).get? name = entries.get? (key name) := by
  cases h : entries.get? (key name) with
  | some v =>
      have hm : (name, v) ∈ stored entries :=
        List.mem_filterMap.mpr ⟨(key name, v), OrderedMap.mem_of_get? h, by simp [nameOf?_key]⟩
      exact OrderedMap.get?_of_mem (m := values entries) hm
  | none =>
      have hc : (values entries).contains name = false := by
        rw [contains_values, isAlias, ← OrderedMap.isSome_get?, h]
        rfl
      rw [← OrderedMap.isSome_get?, Option.isSome_eq_false_iff] at hc
      simpa using hc

/-- Whether a null is kept under a name, which counts as an alias without a text. -/
def IsNull (entries : Entries) (name : String) : Prop :=
  entries.get? (key name) = some .null

theorem text?_of_isNull (h : IsNull entries name) : text? entries name = .ok none := by
  rw [text?, h]

/-! ## Texts -/

/-- Whether every alias has a text. -/
def Written (entries : Entries) : Prop :=
  ∀ name, ¬IsUnwritable entries name

/-- Whether a map holds the texts of all aliases under their names. -/
def Tells (m : OrderedMap String String) (entries : Entries) : Prop :=
  all entries = .ok m.entries

theorem tells_iff {m : OrderedMap String String} :
    Tells m entries ↔
      OrderedMap.Matching (fun v text => v.display = .ok text) (values entries) m :=
  Json.displayEach_eq_ok

theorem all_eq_error {f : Json.Fault} :
    all entries = .error f ↔ ¬Written entries ∧ f = .unwritable := by
  have hu : (∃ e ∈ stored entries, e.2.isWritable = false) ↔ ¬Written entries := by
    simp only [Written, not_forall, not_not, IsUnwritable, ← get?_values]
    constructor
    · rintro ⟨e, he, hw⟩
      exact ⟨e.1, e.2, OrderedMap.get?_of_mem (m := values entries) he, hw⟩
    · rintro ⟨name, v, hv, hw⟩
      exact ⟨(name, v), OrderedMap.mem_of_get? hv, hw⟩
  rw [← hu]
  exact Json.displayEach_eq_error

theorem Written.tells (h : Written entries) : ∃ m, Tells m entries := by
  cases ha : all entries with
  | error f => exact absurd h (all_eq_error.mp ha).1
  | ok ts =>
      have hk : ts.map Prod.fst = (stored entries).map Prod.fst :=
        OrderedMap.corresponds_keys (Json.displayEach_eq_ok.mp ha)
      exact ⟨⟨ts, hk ▸ stored_nodup entries⟩, ha⟩

section Tells

variable {m : OrderedMap String String}

theorem Tells.written (h : Tells m entries) : Written entries := by
  by_contra hw
  have he := all_eq_error.mpr ⟨hw, rfl⟩
  rw [show all entries = _ from h] at he
  contradiction

theorem Tells.contains (h : Tells m entries) (name : String) :
    m.contains name = isAlias entries name := by
  rw [(tells_iff.mp h).contains, contains_values]

/-- An alias that is no null has the text that is told. -/
theorem Tells.text? (h : Tells m entries) (hn : ¬IsNull entries name) :
    text? entries name = .ok (m.get? name) := by
  have hg := (tells_iff.mp h).get? name
  rw [get?_values] at hg
  rw [Alias.text?]
  rw [IsNull] at hn
  generalize entries.get? (key name) = v?, m.get? name = text? at hg hn ⊢
  cases hg with
  | none => rfl
  | @some v text hd =>
      cases v with
      | null => exact absurd rfl hn
      | _ => simp only [hd, Except.map]

end Tells

/-! ## What changes -/

theorem others_insert_key : others (entries.insert (key name) v) = others entries := by
  have hk : IsKey (key name) := isKey_iff.mpr ⟨name, rfl⟩
  rw [others, OrderedMap.filterKeys_insert, if_neg (by simp [hk])]
  rfl

theorem others_insert (hk : ¬IsKey k) :
    others (entries.insert k v) = (others entries).insert k v := by
  rw [others, OrderedMap.filterKeys_insert, if_pos (by simp [hk])]
  rfl

theorem others_erase : others (entries.erase k) = (others entries).erase k :=
  OrderedMap.filterKeys_erase _ entries

theorem others_erase_key : others (entries.erase (key name)) = others entries := by
  rw [others_erase, OrderedMap.erase_of_not_contains]
  rw [← OrderedMap.isSome_get?, others, OrderedMap.get?_filterKeys,
    if_neg (by simp [isKey_iff.mpr ⟨name, rfl⟩])]
  rfl

/-- The other entries have no part in the aliases. -/
theorem values_filterKeys (entries : Entries) :
    values (entries.filterKeys fun k => decide (IsKey k)) = values entries := by
  refine OrderedMap.ext_entries ?_
  simp only [values, stored, OrderedMap.filterKeys, List.filterMap_filter]
  refine List.filterMap_congr fun e _ => ?_
  by_cases hk : IsKey e.1
  · simp [hk]
  · simp [hk, nameOf?_eq_none.mpr hk]

theorem values_insert_key :
    values (entries.insert (key name) v) = (values entries).insert name v := by
  have hlist : ∀ es : List (String × Json),
      (OrderedMap.insertEntry (key name) v es).filterMap
          (fun e => (nameOf? e.1).map fun n => (n, e.2)) =
        OrderedMap.insertEntry name v
          (es.filterMap fun e => (nameOf? e.1).map fun n => (n, e.2)) := by
    intro es
    induction es with
    | nil => simp [OrderedMap.insertEntry, nameOf?_key]
    | cons e rest ih =>
        obtain ⟨k, w⟩ := e
        by_cases hk : k = key name
        · simp [OrderedMap.insertEntry, hk, nameOf?_key]
        · cases hn : nameOf? k with
          | none => simp [OrderedMap.insertEntry, hk, hn, ih]
          | some n =>
              have hne : n ≠ name := fun he => hk (he ▸ nameOf?_eq_some.mp hn)
              simp [OrderedMap.insertEntry, hk, hn, hne, ih]
  exact OrderedMap.ext_entries (hlist entries.entries)

theorem values_insert (hk : ¬IsKey k) : values (entries.insert k v) = values entries := by
  rw [← values_filterKeys, OrderedMap.filterKeys_insert, if_neg (by simpa using hk),
    values_filterKeys]

theorem values_erase_key : values (entries.erase (key name)) = (values entries).erase name := by
  refine OrderedMap.ext_entries ?_
  simp only [values, stored, OrderedMap.erase, OrderedMap.filterKeys, List.filterMap_filter,
    List.filter_filterMap]
  refine List.filterMap_congr fun e _ => ?_
  cases hn : nameOf? e.1 with
  | none => simp
  | some n =>
      have hk : e.1 = key name ↔ n = name := by
        rw [nameOf?_eq_some.mp hn]
        exact key_injective.eq_iff
      simp [hk, Option.filter_some]

theorem values_erase (hk : ¬IsKey k) : values (entries.erase k) = values entries := by
  have hc : (entries.filterKeys fun k => decide (IsKey k)).contains k = false := by
    rw [← OrderedMap.isSome_get?, OrderedMap.get?_filterKeys, if_neg (by simpa using hk)]
    rfl
  rw [← values_filterKeys, OrderedMap.filterKeys_erase, OrderedMap.erase_of_not_contains hc,
    values_filterKeys]

/-! ## Clearing -/

/-- Whether a session comes from another one by dropping some of the first aliases. -/
structure Drops (n : Nat) (x y : Session) : Prop where
  others_eq : others y.store.entries = others x.store.entries
  stored_eq : stored y.store.entries = (stored x.store.entries).drop n
  subset : y.store.entries.entries ⊆ x.store.entries.entries
  file : y.store.file = x.store.file

theorem Drops.trans {x y z : Session} {n m : Nat} (h : Drops n x y) (h' : Drops m y z) :
    Drops (n + m) x z :=
  ⟨h'.others_eq.trans h.others_eq, by rw [h'.stored_eq, h.stored_eq, List.drop_drop],
    List.Subset.trans h'.subset h.subset, h'.file.trans h.file⟩

/-- How the removal of all aliases goes: they are gone, or it ends with the first one that cannot be
saved. -/
inductive Clearing {α : Type} (x : Session) (a : α) : Except Fault α × Session → Prop
  | finished {y n} (h : Drops n x y) (ha : stored y.store.entries = []) : Clearing x a (.ok a, y)
  | cut {y n f} (h : Drops n x y) (hn : 0 < n) (hf : x.store.Unsaved y.store.entries f) :
      Clearing x a (.error (.file f), y)

theorem Drops.refl (x : Session) : Drops 0 x x :=
  ⟨rfl, rfl, List.Subset.refl _, rfl⟩

theorem drops_remove {x : Session} {e : String × Json} {rest : List (String × Json)}
    (h : stored x.store.entries = e :: rest) : Drops 1 x (x.remove (key e.1)).2 := by
  have hs := (x.remove_saves (key e.1)).store
  refine ⟨?_, ?_, ?_, ?_⟩
  · rw [hs, others_erase_key]
  · have hv : values (x.store.entries.erase (key e.1)) = (values x.store.entries).erase e.1 :=
      values_erase_key
    have hr : ((values x.store.entries).erase e.1).entries = rest :=
      OrderedMap.entries_erase_first h
    rw [hs, h, List.drop_one, List.tail_cons, ← hr, ← hv]
    rfl
  · rw [hs]
    exact List.filter_subset_self _
  · rw [hs]

theorem removeAll_clearing {x : Session} {names : List String}
    (h : (stored x.store.entries).map Prod.fst = names) :
    Clearing x () (x.removeAll (names.map key)) := by
  induction names generalizing x with
  | nil => exact .finished (.refl x) (List.map_eq_nil_iff.mp h)
  | cons name rest ih =>
      obtain ⟨e, es, ha, rfl, hes⟩ := List.map_eq_cons_iff.mp h
      have hd := drops_remove ha
      have hs := x.remove_saves (key e.1)
      rw [List.map_cons, Session.removeAll]
      cases hr : x.remove (key e.1) with
      | mk o y =>
          rw [hr] at hd hs
          rcases hs.answer with rfl | ⟨f, rfl, hu⟩
          · have hc := ih (x := y) (by rw [hd.stored_eq, ha, ← hes]; rfl)
            dsimp only
            revert hc
            generalize y.removeAll (rest.map key) = out
            rintro (⟨hd', hn⟩ | ⟨hd', hn, hf⟩)
            · exact .finished (hd.trans hd') hn
            · exact .cut (hd.trans hd') (by omega) (hf.of_file hd.file)
          · refine .cut hd one_pos ?_
            have he : y.store.entries = _ := congrArg Store.entries hs.store
            rwa [he]

theorem clearAliases_clearing {x : Session} {m : OrderedMap String String}
    (h : Tells m x.store.entries) : Clearing x m.size x.clearAliases := by
  have hk : (stored x.store.entries).map Prod.fst = m.entries.map Prod.fst :=
    (OrderedMap.corresponds_keys (tells_iff.mp h)).symm
  have hc := removeAll_clearing hk
  have hl : (m.entries.map Prod.fst).length = m.size := List.length_map _
  rw [Session.clearAliases, show all x.store.entries = _ from h]
  dsimp only
  rw [hl]
  generalize x.removeAll _ = out at hc
  obtain ⟨hd, ha⟩ | ⟨hd, hn, hf⟩ := hc
  · exact .finished hd ha
  · exact .cut hd hn hf

theorem clearAliases_of_not_written {x : Session} (h : ¬Written x.store.entries) :
    x.clearAliases = (.error (.json .unwritable), x) := by
  rw [Session.clearAliases, all_eq_error.mpr ⟨h, rfl⟩]

/-! ## Operations -/

/-- What is done to the aliases of a session, or to its store directly. -/
inductive Operation
  | create (name text : String)
  | remove (name : String)
  | clear
  | put (k : String) (v : Json)
  | take (k : String)

/-- What an operation gives back. -/
inductive Answer
  | done
  | found (there : Bool)
  | count (n : Nat)
  deriving DecidableEq

namespace Operation

/-- Whether an operation on the store leaves the keys of aliases alone. -/
def IsApart : Operation → Prop
  | put k _ => ¬IsKey k
  | take k => ¬IsKey k
  | _ => True

instance : DecidablePred IsApart
  | put k _ => inferInstanceAs (Decidable ¬IsKey k)
  | take k => inferInstanceAs (Decidable ¬IsKey k)
  | create _ _ | remove _ | clear => inferInstanceAs (Decidable True)

/-- Whether an operation is one on the store. -/
def isPlain : Operation → Bool
  | put _ _ => true
  | take _ => true
  | _ => false

def perform (isCommand : String → Bool) (x : Session) :
    Operation → Except Fault Answer × Session
  | create name text => (x.createAlias isCommand name text).map (Except.map fun _ => Answer.done) id
  | remove name => (x.removeAlias name).map (Except.map .found) id
  | clear => x.clearAliases.map (Except.map .count) id
  | put k v => (x.put k v).map (Except.map fun _ => Answer.done) id
  | take k => (x.remove k).map (Except.map .found) id

/-- What becomes of the entries that are no aliases. -/
def onOthers (m : Entries) : Operation → Entries
  | put k v => m.insert k v
  | take k => m.erase k
  | _ => m

/-- What becomes of a map from the names of aliases to what stands for their texts. -/
def onAliases {α : Type} (isCommand : String → Bool) (ofText : String → α)
    (m : OrderedMap String α) : Operation → OrderedMap String α
  | create name text =>
      match check isCommand name with
      | .ok () => m.insert name (ofText text)
      | .error _ => m
  | remove name => m.erase name
  | clear => .empty
  | _ => m

/-- The answer that the maps give. -/
def expected (isCommand : String → Bool) (entries : Entries) : Operation → Except Fault Answer
  | create name _ =>
      match check isCommand name with
      | .ok () => .ok .done
      | .error f => .error (.naming f)
  | remove name => .ok (.found ((values entries).contains name))
  | clear =>
      match all entries with
      | .ok ts => .ok (.count ts.length)
      | .error f => .error (.json f)
  | put _ _ => .ok .done
  | take k => .ok (.found ((others entries).contains k))

end Operation

/-- How an operation goes. -/
inductive Performed (isCommand : String → Bool) (x : Session) :
    Operation → Except Fault Answer × Session → Prop
  | refused {name text f} (hc : check isCommand name = .error f) :
      Performed isCommand x (.create name text) (.error (.naming f), x)
  | created {name text out} (hc : check isCommand name = .ok ())
      (h : x.Saves (x.store.entries.insert (key name) (.str text)) .done out) :
      Performed isCommand x (.create name text) out
  | removed {name out}
      (h : x.Saves (x.store.entries.erase (key name)) (.found (isAlias x.store.entries name)) out) :
      Performed isCommand x (.remove name) out
  | cleared {m n y} (hm : Tells m x.store.entries) (h : Drops n x y)
      (ha : stored y.store.entries = []) : Performed isCommand x .clear (.ok (.count m.size), y)
  | cut {m n y f} (hm : Tells m x.store.entries) (h : Drops n x y) (hn : 0 < n)
      (hf : x.store.Unsaved y.store.entries f) : Performed isCommand x .clear (.error (.file f), y)
  | unwritten (hw : ¬Written x.store.entries) :
      Performed isCommand x .clear (.error (.json .unwritable), x)
  | put {k v out} (h : x.Saves (x.store.entries.insert k v) .done out) :
      Performed isCommand x (.put k v) out
  | taken {k out}
      (h : x.Saves (x.store.entries.erase k) (.found (x.store.entries.contains k)) out) :
      Performed isCommand x (.take k) out

section Perform

variable {isCommand : String → Bool} {x : Session} {o : Operation}

theorem performed (isCommand : String → Bool) (x : Session) (o : Operation) :
    Performed isCommand x o (o.perform isCommand x) := by
  cases o with
  | create name text =>
      rw [Operation.perform, Session.createAlias]
      split
      · exact .refused ‹_›
      · exact .created ‹_› ((x.put_saves _ _).map fun _ => Answer.done)
  | remove name => exact .removed ((x.remove_saves _).map _)
  | clear =>
      rw [Operation.perform]
      by_cases hw : Written x.store.entries
      · obtain ⟨m, hm⟩ := hw.tells
        have hc := clearAliases_clearing hm
        generalize x.clearAliases = out at hc
        obtain ⟨hd, ha⟩ | ⟨hd, hn, hf⟩ := hc
        · exact .cleared hm hd ha
        · exact .cut hm hd hn hf
      · rw [clearAliases_of_not_written hw]
        exact .unwritten hw
  | put k v => exact .put ((x.put_saves k v).map fun _ => Answer.done)
  | take k => exact .taken ((x.remove_saves k).map _)

variable {out : Except Fault Answer × Session}

theorem Performed.others_eq (h : Performed isCommand x o out) (ho : o.IsApart) :
    others out.2.store.entries = o.onOthers (others x.store.entries) := by
  cases h with
  | refused | unwritten => rfl
  | created hc h =>
      rw [h.store]
      exact others_insert_key
  | removed h =>
      rw [h.store]
      exact others_erase_key
  | cleared hm h ha => exact h.others_eq
  | cut hm h hn hf => exact h.others_eq
  | put h =>
      rw [h.store]
      exact others_insert ho
  | taken h =>
      rw [h.store]
      exact others_erase

theorem Performed.values_eq (h : Performed isCommand x o out) (ho : o.IsApart)
    (hok : o = .clear → ∃ a, out.1 = .ok a) :
    values out.2.store.entries = o.onAliases isCommand .str (values x.store.entries) := by
  cases h with
  | refused hc => rw [Operation.onAliases, hc]
  | created hc h =>
      rw [h.store, Operation.onAliases, hc]
      exact values_insert_key
  | removed h =>
      rw [h.store]
      exact values_erase_key
  | cleared hm h ha => exact OrderedMap.ext_entries ha
  | cut | unwritten => exact nomatch (hok rfl).choose_spec
  | put h =>
      rw [h.store]
      exact values_insert ho
  | taken h =>
      rw [h.store]
      exact values_erase ho

theorem Performed.file (h : Performed isCommand x o out) : out.2.store.file = x.store.file := by
  cases h with
  | refused | unwritten => rfl
  | created _ h | removed h | put h | taken h => rw [h.store]
  | cleared _ h | cut _ h => exact h.file

theorem Performed.answer (h : Performed isCommand x o out) (ho : o.IsApart) :
    out.1 = o.expected isCommand x.store.entries ∨
      ∃ f, out.1 = .error (.file f) ∧ x.store.Unsaved out.2.store.entries f := by
  have hsaves : ∀ {entries a}, x.Saves entries a out →
      o.expected isCommand x.store.entries = .ok a →
      out.1 = o.expected isCommand x.store.entries ∨
        ∃ f, out.1 = .error (.file f) ∧ x.store.Unsaved out.2.store.entries f := by
    intro entries a h he
    rw [h.store, he]
    exact h.answer
  cases h with
  | refused hc => exact .inl (by rw [Operation.expected, hc])
  | created hc h => exact hsaves h (by rw [Operation.expected, hc])
  | removed h => exact hsaves h (by rw [Operation.expected, contains_values])
  | cleared hm h ha =>
      exact .inl (by rw [Operation.expected, show all x.store.entries = _ from hm]; rfl)
  | cut hm h hn hf => exact .inr ⟨_, rfl, hf⟩
  | unwritten hw => exact .inl (by rw [Operation.expected, all_eq_error.mpr ⟨hw, rfl⟩])
  | put h => exact hsaves h rfl
  | @taken k out h =>
      have hk : (others x.store.entries).contains k = x.store.entries.contains k := by
        have hn : ¬IsKey k := ho
        rw [← OrderedMap.isSome_get?, ← OrderedMap.isSome_get?, others, OrderedMap.get?_filterKeys,
          if_pos (by simpa using hn)]
      exact hsaves h (by rw [Operation.expected, hk])

/-- What the maps refuse changes nothing. -/
theorem Performed.refused_eq {f : Fault} (h : Performed isCommand x o out)
    (he : o.expected isCommand x.store.entries = .error f) : out = (.error f, x) := by
  cases h with
  | refused hc =>
      rw [Operation.expected, hc] at he
      rw [Except.error.inj he]
  | created hc h =>
      rw [Operation.expected, hc] at he
      contradiction
  | cleared hm | cut hm =>
      rw [Operation.expected, show all x.store.entries = _ from hm] at he
      contradiction
  | unwritten hw =>
      rw [Operation.expected, all_eq_error.mpr ⟨hw, rfl⟩] at he
      rw [Except.error.inj he]
  | removed | put | taken => contradiction

/-- What stands under the name of an alias was there before, unless it is a text. -/
theorem Performed.value (h : Performed isCommand x o out) (ho : o.IsApart) {v : Json}
    (hv : out.2.store.entries.get? (key name) = some v) :
    x.store.entries.get? (key name) = some v ∨ ∃ text, v = .str text := by
  have herase : ∀ k, (x.store.entries.erase k).get? (key name) = some v →
      x.store.entries.get? (key name) = some v := by
    intro k hv
    rw [OrderedMap.erase, OrderedMap.get?_filterKeys] at hv
    split at hv
    · exact hv
    · contradiction
  have hdrops : ∀ {n y}, Drops n x y → y.store.entries.get? (key name) = some v →
      x.store.entries.get? (key name) = some v :=
    fun h hv => OrderedMap.get?_of_mem (h.subset (OrderedMap.mem_of_get? hv))
  cases h with
  | refused | unwritten => exact .inl hv
  | @created name' text out hc h =>
      rw [h.store] at hv
      by_cases he : key name' = key name
      · rw [he, OrderedMap.get?_insert_self] at hv
        exact .inr ⟨text, (Option.some.inj hv).symm⟩
      · rw [OrderedMap.get?_insert_of_ne _ he] at hv
        exact .inl hv
  | removed h | taken h =>
      rw [h.store] at hv
      exact .inl (herase _ hv)
  | cleared _ h | cut _ h => exact .inl (hdrops h hv)
  | @put k v out h =>
      have hk : k ≠ key name := fun he => ho (isKey_iff.mpr ⟨name, he⟩)
      rw [h.store, OrderedMap.get?_insert_of_ne _ hk] at hv
      exact .inl hv

theorem Performed.written (h : Performed isCommand x o out) (ho : o.IsApart)
    (hw : Written x.store.entries) : Written out.2.store.entries := by
  rintro name ⟨v, hv, hu⟩
  rcases h.value ho hv with hx | ⟨text, rfl⟩
  · exact hw name ⟨v, hx, hu⟩
  · exact absurd hu (by rw [Json.isWritable_str]; decide)

/-- No null is put in under the name of an alias. -/
theorem Performed.isNull (h : Performed isCommand x o out) (ho : o.IsApart)
    (hn : IsNull out.2.store.entries name) : IsNull x.store.entries name :=
  (h.value ho hn).resolve_right nofun

end Perform

/-! ## Sequences of operations -/

/-- The session after some operations, whether they succeed or not. -/
def after (isCommand : String → Bool) (ops : List Operation) (x : Session) : Session :=
  ops.foldl (fun x o => (o.perform isCommand x).2) x

/-- Whether no clearing among some operations is cut short. -/
def Finished (isCommand : String → Bool) : List Operation → Session → Prop
  | [], _ => True
  | o :: rest, x =>
      (o = .clear → ∃ a, (o.perform isCommand x).1 = .ok a) ∧
        Finished isCommand rest (o.perform isCommand x).2

section Run

variable {isCommand : String → Bool} {ops : List Operation}

theorem others_after (h : ∀ o ∈ ops, o.IsApart) (x : Session) :
    others (after isCommand ops x).store.entries =
      ops.foldl Operation.onOthers (others x.store.entries) := by
  induction ops generalizing x with
  | nil => rfl
  | cons o rest ih =>
      obtain ⟨ho, hrest⟩ := List.forall_mem_cons.mp h
      have hp := performed isCommand x o
      rw [List.foldl_cons, ← hp.others_eq ho]
      exact ih hrest _

theorem foldl_onOthers_filter (ops : List Operation) (m : Entries) :
    (ops.filter Operation.isPlain).foldl Operation.onOthers m =
      ops.foldl Operation.onOthers m := by
  induction ops generalizing m with
  | nil => rfl
  | cons o rest ih => cases o <;> exact ih _

theorem values_after (h : ∀ o ∈ ops, o.IsApart) {x : Session} (hf : Finished isCommand ops x) :
    values (after isCommand ops x).store.entries =
      ops.foldl (Operation.onAliases isCommand .str) (values x.store.entries) := by
  induction ops generalizing x with
  | nil => rfl
  | cons o rest ih =>
      obtain ⟨ho, hrest⟩ := List.forall_mem_cons.mp h
      have hp := performed isCommand x o
      rw [List.foldl_cons, ← hp.values_eq ho hf.1]
      exact ih hrest hf.2

theorem matching_onAliases {α β : Type} {R : α → β → Prop} {ofText : String → α}
    {ofText' : String → β} (hr : ∀ text, R (ofText text) (ofText' text)) {m : OrderedMap String α}
    {m' : OrderedMap String β} (h : OrderedMap.Matching R m m') :
    OrderedMap.Matching R (ops.foldl (Operation.onAliases isCommand ofText) m)
      (ops.foldl (Operation.onAliases isCommand ofText') m') := by
  induction ops generalizing m m' with
  | nil => exact h
  | cons o rest ih =>
      refine ih ?_
      cases o with
      | create name text =>
          rw [Operation.onAliases, Operation.onAliases]
          split
          · exact h.insert (hr text)
          · exact h
      | remove name => exact h.erase name
      | clear => exact OrderedMap.matching_empty
      | put | take => exact h

/-- A map of texts that tells the aliases goes on to do so when the same is done to both. -/
theorem tells_after (h : ∀ o ∈ ops, o.IsApart) {x : Session} {m : OrderedMap String String}
    (hm : Tells m x.store.entries) (hf : Finished isCommand ops x) :
    Tells (ops.foldl (Operation.onAliases isCommand id) m)
      (after isCommand ops x).store.entries := by
  rw [tells_iff, values_after h hf]
  exact matching_onAliases (R := fun (v : Json) text => v.display = .ok text) (fun _ => rfl)
    (tells_iff.mp hm)

theorem isNull_after (h : ∀ o ∈ ops, o.IsApart) {x : Session}
    (hn : IsNull (after isCommand ops x).store.entries name) : IsNull x.store.entries name := by
  induction ops generalizing x with
  | nil => exact hn
  | cons o rest ih =>
      obtain ⟨ho, hrest⟩ := List.forall_mem_cons.mp h
      exact (performed isCommand x o).isNull ho (ih hrest hn)

theorem written_after (h : ∀ o ∈ ops, o.IsApart) {x : Session} (hw : Written x.store.entries) :
    Written (after isCommand ops x).store.entries := by
  induction ops generalizing x with
  | nil => exact hw
  | cons o rest ih =>
      obtain ⟨ho, hrest⟩ := List.forall_mem_cons.mp h
      exact ih hrest ((performed isCommand x o).written ho hw)

/-- In memory everything can be saved. -/
theorem finished_of_memory (h : ∀ o ∈ ops, o.IsApart) {x : Session} (hf : x.store.file = none)
    (hw : Written x.store.entries) : Finished isCommand ops x := by
  induction ops generalizing x with
  | nil => trivial
  | cons o rest ih =>
      obtain ⟨ho, hrest⟩ := List.forall_mem_cons.mp h
      have hp := performed isCommand x o
      refine ⟨?_, ih hrest (hp.file.trans hf) (hp.written ho hw)⟩
      rintro rfl
      generalize Operation.perform isCommand x .clear = out at hp
      cases hp with
      | cleared => exact ⟨_, rfl⟩
      | cut hm h hn hu => exact absurd hf hu.file_ne
      | unwritten hn => exact absurd hw hn

end Run

/-- Whether a session answers about its aliases as the maps do. What the maps refuse changes
nothing, and any other fault is one of a store that cannot be saved. -/
structure Agrees (isCommand : String → Bool) (x : Session) : Prop where
  tells (h : Written x.store.entries) : ∃ m, Tells m x.store.entries
  is_alias (name : String) :
    isAlias x.store.entries name = (values x.store.entries).contains name
  text {m : OrderedMap String String} (hm : Tells m x.store.entries) {name : String} :
    m.contains name = isAlias x.store.entries name ∧
      (¬IsNull x.store.entries name → text? x.store.entries name = .ok (m.get? name))
  null {name : String} (h : IsNull x.store.entries name) : text? x.store.entries name = .ok none
  unwritten {name : String} (h : IsUnwritable x.store.entries name) :
    text? x.store.entries name = .error .unwritable ∧ all x.store.entries = .error .unwritable
  answers {o : Operation} (ho : o.IsApart) :
    (o.perform isCommand x).1 = o.expected isCommand x.store.entries ∨
      ∃ f, (o.perform isCommand x).1 = .error (.file f) ∧
        x.store.Unsaved (o.perform isCommand x).2.store.entries f
  refused {o : Operation} {f : Fault} (h : o.expected isCommand x.store.entries = .error f) :
    o.perform isCommand x = (.error f, x)
  cleared {n : Nat} (h : x.clearAliases.1 = .ok n) {k : String}
    (hk : x.clearAliases.2.store.contains k = true) : ¬IsKey k
  cut {f : FileFault} (h : x.clearAliases.1 = .error (.file f)) :
    ∃ n, 0 < n ∧ stored x.clearAliases.2.store.entries = (stored x.store.entries).drop n

theorem not_isKey_of_stored_eq_nil (h : stored entries = []) (hk : entries.contains k = true) :
    ¬IsKey k := by
  intro hkey
  obtain ⟨name, rfl⟩ := isKey_iff.mp hkey
  have hc : name ∈ (stored entries).map Prod.fst :=
    (values entries).contains_iff.mp ((contains_values entries name).trans hk)
  rw [h] at hc
  contradiction

theorem agrees (isCommand : String → Bool) (x : Session) : Agrees isCommand x where
  tells h := h.tells
  is_alias name := (contains_values _ name).symm
  text hm := ⟨hm.contains _, hm.text?⟩
  null h := text?_of_isNull h
  unwritten h := ⟨text?_eq_error.mpr ⟨h, rfl⟩, all_eq_error.mpr ⟨fun hw => hw _ h, rfl⟩⟩
  answers ho := (performed isCommand x _).answer ho
  refused h := (performed isCommand x _).refused_eq h
  cleared {n} h {k} hk := by
    by_cases hw : Written x.store.entries
    · obtain ⟨m, hm⟩ := hw.tells
      have hc := clearAliases_clearing hm
      generalize x.clearAliases = out at h hk hc
      obtain ⟨hd, ha⟩ | ⟨hd, hn, hf⟩ := hc
      · exact not_isKey_of_stored_eq_nil ha hk
      · contradiction
    · rw [clearAliases_of_not_written hw] at h
      contradiction
  cut {f} h := by
    by_cases hw : Written x.store.entries
    · obtain ⟨m, hm⟩ := hw.tells
      have hc := clearAliases_clearing hm
      generalize x.clearAliases = out at h hc
      obtain ⟨hd, ha⟩ | ⟨hd, hn, hf⟩ := hc
      · contradiction
      · exact ⟨_, hn, hd.stored_eq⟩
    · rw [clearAliases_of_not_written hw] at h
      cases h

/-- Aliases and other entries change apart, each as a map does, as long as no clearing of aliases is
cut short. -/
theorem aliases_apart (isCommand : String → Bool) {ops : List Operation}
    (h : ∀ o ∈ ops, o.IsApart) (x : Session) :
    let y := after isCommand ops x
    others y.store.entries =
      others (after isCommand (ops.filter Operation.isPlain) x).store.entries ∧
    (Finished isCommand ops x →
      values y.store.entries =
        ops.foldl (Operation.onAliases isCommand .str) (values x.store.entries)) ∧
    (∀ m, Tells m x.store.entries → Finished isCommand ops x →
      Tells (ops.foldl (Operation.onAliases isCommand id) m) y.store.entries) ∧
    (x.store.file = none → Written x.store.entries → Finished isCommand ops x) ∧
    (Written x.store.entries → Written y.store.entries) ∧
    (∀ name, IsNull y.store.entries name → IsNull x.store.entries name) ∧
    Agrees isCommand y := by
  intro y
  have hplain : ∀ o ∈ ops.filter Operation.isPlain, o.IsApart :=
    fun o ho => h o (List.mem_filter.mp ho).1
  refine ⟨?_, values_after h, fun _ => tells_after h, finished_of_memory h, written_after h,
    fun name => isNull_after h, agrees isCommand y⟩
  rw [others_after h, others_after hplain, foldl_onOthers_filter]

/-- A session with aliases among other entries, one of them without a name and one whose name starts
as the keys of aliases do. -/
def mixed : Session :=
  { (Shell.bare Registry.empty 32).session with
    store := ⟨OrderedMap.ofList
      [("alias_", .null), ("k", .int 1), ("alias_alias_a", .str "x"), ("alias", .bool true)],
      none⟩ }

/-- Operations on both, some of which fail. -/
theorem aliases_apart_mixed :
    let ops : List Operation := [.put "alias" (.str "y"), .create "" "z", .remove "", .take "k",
      .clear, .create "g" "ls", .create "alias_a" "w", .put "k" .null]
    let y := after (fun _ => false) ops mixed
    (∀ o ∈ ops, o.IsApart) ∧ mixed.store.file = none ∧
      all mixed.store.entries = .ok [("", "None"), ("alias_a", "x")] ∧
      (others y.store.entries).entries = [("alias", .str "y"), ("k", .null)] ∧
      all y.store.entries = .ok [("g", "ls"), ("alias_a", "w")] := by
  intro ops y
  have h : ∀ o ∈ ops, o.IsApart := by decide
  have hf : mixed.store.file = none := rfl
  have hm : Tells (OrderedMap.ofList [("", "None"), ("alias_a", "x")]) mixed.store.entries := by
    rfl
  obtain ⟨hothers, -, htells, hfin, -⟩ := aliases_apart (fun _ => false) h mixed
  refine ⟨h, hf, hm, ?_, ?_⟩
  · rw [hothers]
    rfl
  · have hy := htells _ hm (hfin hf hm.written)
    rw [Tells] at hy
    rw [hy]
    decide +kernel

/-- Half of a surrogate pair in the last alias keeps the first one from being removed with success,
so the last one is left. -/
theorem clearAliases_cut :
    let x := { mixed with
      store := ⟨OrderedMap.ofList
        [("alias_a", .str "x"), ("alias_b", .str (String.ofList (Text.Code.hold 0xD800)))],
        some ⟨.slash, ["store.json"]⟩⟩ }
    (∃ e, x.clearAliases.1 = .error (.file (.notEncodable e))) ∧
      isAlias x.clearAliases.2.store.entries "b" = true :=
  ⟨⟨_, rfl⟩, rfl⟩

end Alias

end CommandShell
