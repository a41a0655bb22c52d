import CommandShell.Command.Custom
import CommandShell.Proofs.Builtin.Names

/-!
The list of commands beside their names. Every name of a command that can be called is listed once,
and whoever is listed is found under its own name unless another command has taken the name over.
-/

namespace CommandShell

/-! ## Order -/

namespace Text

theorem areOrdered_trans {as bs cs : List Nat} (h : areOrdered as bs = true)
    (h' : areOrdered bs cs = true) : areOrdered as cs = true := by
  induction as generalizing bs cs with
  | nil => rfl
  | cons a as ih =>
      cases bs with
      | nil => contradiction
      | cons b bs =>
          cases cs with
          | nil => contradiction
          | cons c cs =>
              simp only [areOrdered, Bool.or_eq_true, Bool.and_eq_true, decide_eq_true_eq] at h h' ⊢
              rcases h with h | ⟨rfl, h⟩
              · rcases h' with h' | ⟨rfl, -⟩
                · exact .inl (Nat.lt_trans h h')
                · exact .inl h
              · rcases h' with h' | ⟨rfl, h'⟩
                · exact .inl h'
                · exact .inr ⟨rfl, ih h h'⟩

theorem areOrdered_total (as bs : List Nat) : (areOrdered as bs || areOrdered bs as) = true := by
  induction as generalizing bs with
  | nil => rfl
  | cons a as ih =>
      cases bs with
      | nil => simp [areOrdered]
      | cons b bs =>
          have ht := ih bs
          simp only [areOrdered, Bool.or_eq_true, Bool.and_eq_true, decide_eq_true_eq] at ht ⊢
          rcases Nat.lt_trichotomy a b with h | rfl | h
          · exact .inl (.inl h)
          · exact ht.imp (fun ht => .inr ⟨rfl, ht⟩) fun ht => .inr ⟨rfl, ht⟩
          · exact .inr (.inl h)

variable {α : Type} {key : α → String}

theorem pairwise_sortBy (key : α → String) (xs : List α) :
    (sortBy key xs).Pairwise fun a b => isOrdered (key a) (key b) = true := by
  refine List.pairwise_mergeSort (fun a b c h h' => ?_) (fun a b => ?_) xs
  · exact areOrdered_trans h h'
  · exact areOrdered_total _ _

theorem sortBy_of_pairwise {xs : List α}
    (h : xs.Pairwise fun a b => isOrdered (key a) (key b) = true) : sortBy key xs = xs :=
  List.mergeSort_of_pairwise h

theorem sortBy_perm (key : α → String) (xs : List α) : (sortBy key xs).Perm xs :=
  List.mergeSort_perm xs _

theorem map_sortBy {β : Type} {key' : β → String} {f : α → β} (h : ∀ a, key' (f a) = key a)
    (xs : List α) : (sortBy key xs).map f = sortBy key' (xs.map f) :=
  List.map_mergeSort fun a _ b _ => by rw [h, h]

end Text

/-! ## The list -/

namespace Registry

variable {r : Registry} {c : Command} {commands : List Command} {name : String}

/-- The commands that are listed, with all that is known of them. -/
def listed (r : Registry) : List Command :=
  Text.sortBy (fun c => c.card.name)
    (OrderedMap.ofList (r.values.map fun c => (c.card.name, c))).values

theorem cards_directory (r : Registry) : r.directory.cards = r.listed.map Command.card := by
  have hm := OrderedMap.mapValues_ofList Command.card (r.values.map fun c => (c.card.name, c))
  have hv : ∀ m : OrderedMap String Command, (m.mapValues Command.card).values =
      m.values.map Command.card := by
    intro m
    simp [OrderedMap.values, OrderedMap.mapValues]
  have hd : r.directory.values = r.values.map Command.card := hv r
  have hs : ∀ cs : List Command, (Text.sortBy (fun c => c.card.name) cs).map Command.card =
      Text.sortBy Card.name (cs.map Command.card) := Text.map_sortBy fun _ => rfl
  rw [listed, hs, ← hv, hm, Directory.cards, hd, List.map_map, List.map_map]
  rfl

/-- What is listed goes by its name there. -/
theorem name_of_mem_entries {e : String × Command}
    (h : e ∈ (OrderedMap.ofList (r.values.map fun c => (c.card.name, c))).entries) :
    e.1 = e.2.card.name ∧ e.2 ∈ r.values := by
  obtain ⟨c, hc, rfl⟩ := List.mem_map.mp (OrderedMap.mem_of_mem_ofList h)
  exact ⟨rfl, hc⟩

theorem mem_values_of_mem_listed (h : c ∈ r.listed) : c ∈ r.values := by
  have hm := (Text.sortBy_perm _ _).mem_iff.mp h
  obtain ⟨e, he, rfl⟩ := List.mem_map.mp hm
  exact (name_of_mem_entries he).2

theorem names_listed (r : Registry) :
    (r.listed.map fun c => c.card.name).Perm
      (OrderedMap.ofList (r.values.map fun c => (c.card.name, c))).keys := by
  refine ((Text.sortBy_perm _ _).map _).trans (List.Perm.of_eq ?_)
  rw [OrderedMap.values, OrderedMap.keys, List.map_map]
  exact List.map_congr_left fun e he => (name_of_mem_entries he).1.symm

theorem nodup_names_listed (r : Registry) : (r.listed.map fun c => c.card.name).Nodup :=
  (names_listed r).nodup_iff.mpr (OrderedMap.nodup _)

/-- Whoever can be called is listed, or another command of the same name. -/
theorem exists_mem_listed (h : c ∈ r.values) : ∃ c' ∈ r.listed, c'.card.name = c.card.name := by
  have hk : c.card.name ∈ (r.listed.map fun c => c.card.name) := by
    rw [(names_listed r).mem_iff, OrderedMap.keys, ← OrderedMap.contains_iff,
      OrderedMap.contains_ofList, List.map_map]
    exact List.mem_map.mpr ⟨c, h, rfl⟩
  obtain ⟨c', hc, hn⟩ := List.mem_map.mp hk
  exact ⟨c', hc, hn⟩

/-! ## Registrations -/

/-- The keys of a registry are names in lower case. -/
theorem exists_lower_of_contains {key : String}
    (h : (commands.foldl register empty).contains key = true) : ∃ name, key = Text.lower name := by
  have hnames : ∀ (names : List String) (c : Command) (r : Registry),
      (names.foldl (fun r name => r.insert (Text.lower name) c) r).contains key = true →
        (∃ name, key = Text.lower name) ∨ r.contains key = true := by
    intro names c
    induction names with
    | nil => exact fun r h => .inr h
    | cons first rest ih =>
        intro r h
        rcases ih _ h with h | h
        · exact .inl h
        · exact ((OrderedMap.contains_insert_iff r).mp h).imp_left fun he => ⟨first, he⟩
  have hfrom : ∀ r : Registry, (commands.foldl register r).contains key = true →
      (∃ name, key = Text.lower name) ∨ r.contains key = true := by
    clear h
    induction commands with
    | nil => exact fun r h => .inr h
    | cons c rest ih => exact fun r h => (ih _ h).elim .inl (hnames _ c r)
  exact (hfrom empty h).resolve_right Bool.false_ne_true

theorem mem_values_iff :
    c ∈ (commands.foldl register empty).values ↔
      ∃ name, commands.reverse.find? (Command.declares name) = some c := by
  constructor
  · intro h
    obtain ⟨⟨key, c⟩, hm, rfl⟩ := List.mem_map.mp h
    have hg := OrderedMap.get?_of_mem hm
    have hc : (commands.foldl register empty).contains key = true := by
      rw [← OrderedMap.isSome_get?, hg]
      rfl
    obtain ⟨name, rfl⟩ := exists_lower_of_contains hc
    exact ⟨name, (get?_registered commands name).symm.trans hg⟩
  · rintro ⟨name, h⟩
    rw [← get?_registered] at h
    exact List.mem_map.mpr ⟨_, OrderedMap.mem_of_get? h, rfl⟩

theorem declares_own_name (c : Command) : c.declares c.card.name = true := by
  simp [Command.declares]

/-- A command that is not found under its own name has lost it to one that was registered later. -/
theorem overtaken (h : c ∈ commands)
    (hf : commands.reverse.find? (Command.declares c.card.name) ≠ some c) :
    ∃ before later after, commands = before ++ later :: after ∧ c ∈ before ∧ c ∉ later :: after ∧
      later.declares c.card.name = true := by
  obtain ⟨later, hl⟩ : ∃ later,
      commands.reverse.find? (Command.declares c.card.name) = some later := by
    rw [← Option.isSome_iff_exists, List.find?_isSome]
    exact ⟨c, List.mem_reverse.mpr h, declares_own_name c⟩
  obtain ⟨hd, after, before, hs, hnone⟩ := List.find?_eq_some_iff_append.mp hl
  have hafter : c ∉ after := by
    intro hm
    have hn := hnone c hm
    rw [declares_own_name] at hn
    contradiction
  have hne : c ≠ later := by
    rintro rfl
    exact hf hl
  have hc : commands = before.reverse ++ later :: after.reverse := by
    rw [← List.reverse_reverse commands, hs]
    simp
  have hnot : c ∉ later :: after.reverse := by simp [hne, hafter]
  refine ⟨before.reverse, later, after.reverse, hc, ?_, hnot, hd⟩
  rw [hc, List.mem_append] at h
  exact h.resolve_right hnot

/-- A name is looked up to the command that declared it last. The list has, by name, those that some
name is looked up to. -/
theorem commands_listed (commands : List Command) :
    let r := commands.foldl register empty
    (∀ name, r.find? name =
      if name = "" then none else commands.reverse.find? (Command.declares name)) ∧
    r.directory.cards = r.listed.map Command.card ∧
    (r.listed.map fun c => c.card.name).Nodup ∧
    (r.listed.Pairwise fun c c' => Text.isOrdered c.card.name c'.card.name = true) ∧
    (∀ c ∈ r.listed, ∃ name, commands.reverse.find? (Command.declares name) = some c) ∧
    (∀ name c, commands.reverse.find? (Command.declares name) = some c →
      ∃ c' ∈ r.listed, c'.card.name = c.card.name) ∧
    (∀ c ∈ r.listed, c.card.name = "" ∨ r.find? c.card.name = some c ∨
      ∃ before later after, commands = before ++ later :: after ∧ c ∈ before ∧
        c ∉ later :: after ∧ later.declares c.card.name = true) := by
  intro r
  have hfind : ∀ name, r.find? name =
      if name = "" then none else commands.reverse.find? (Command.declares name) := by
    intro name
    rw [find?, get?_registered]
  have hlisted : ∀ c ∈ r.listed, ∃ name,
      commands.reverse.find? (Command.declares name) = some c :=
    fun c hc => mem_values_iff.mp (mem_values_of_mem_listed hc)
  refine ⟨hfind, cards_directory r, nodup_names_listed r, Text.pairwise_sortBy _ _, hlisted,
    fun name c hc => exists_mem_listed (mem_values_iff.mpr ⟨name, hc⟩), fun c hc => ?_⟩
  by_cases hn : c.card.name = ""
  · exact .inl hn
  by_cases hf : r.find? c.card.name = some c
  · exact .inr (.inl hf)
  · obtain ⟨name, hm⟩ := hlisted c hc
    rw [hfind, if_neg hn] at hf
    exact .inr (.inr (overtaken (List.mem_reverse.mp (List.mem_of_find?_eq_some hm)) hf))

/-- Of two commands the second takes the name of the first, which goes by its other name still. -/
theorem commands_listed_pair :
    let a := Behaviour.join.command "a" ["b"]
    let r := [Behaviour.join.command "b" ["x"], a].foldl register empty
    r.find? "b" = some a ∧ ∃ c ∈ r.listed, c.card.name = "b" :=
  have h := commands_listed [Behaviour.join.command "b" ["x"], Behaviour.join.command "a" ["b"]]
  ⟨h.1 "b", h.2.2.2.2.2.1 "x" _ rfl⟩

/-- A command whose own name is looked up to another one is listed, and so is one that declares no
name but the empty one. -/
theorem listed_overtaken :
    let a := Behaviour.join.command "a" ["b"]
    let b := Behaviour.join.command "b" ["x"]
    let nameless := Behaviour.join.command "" []
    let r := [b, a].foldl register empty
    let r' := [nameless].foldl register empty
    (r.listed = [a, b] ∧ r.find? b.card.name = some a ∧ a ≠ b) ∧
      r'.listed = [nameless] ∧ nameless.declares "" = true ∧ r'.find? "" = none := by
  intro a b nameless r r'
  have hr : r = (((empty.insert "b" b).insert "x" b).insert "a" a).insert "b" a := by
    have hregister : ∀ (name second : String) (r : Registry),
        register r (Behaviour.join.command name [second]) =
          (r.insert (Text.lower name) (Behaviour.join.command name [second])).insert
            (Text.lower second) (Behaviour.join.command name [second]) := fun _ _ _ => rfl
    have ha : Text.lower "a" = "a" := Text.lower_of_letters (by decide)
    have hb : Text.lower "b" = "b" := Text.lower_of_letters (by decide)
    have hx : Text.lower "x" = "x" := Text.lower_of_letters (by decide)
    simp only [r, a, b, List.foldl_cons, List.foldl_nil, hregister, ha, hb, hx]
  have hvalues : r.values = [a, b, a] := by
    rw [hr]
    rfl
  have hnames : (OrderedMap.ofList ([a, b, a].map fun c => (c.card.name, c))).values = [a, b] := rfl
  have hlisted : r.listed = [a, b] := by
    rw [listed, hvalues, hnames]
    have hordered : Text.isOrdered "a" "b" = true := by decide
    exact Text.sortBy_of_pairwise (List.pairwise_pair.mpr hordered)
  have hdeclares : a.declares "b" = true := by decide
  have hfind : r.find? b.card.name = some a := by
    rw [find?, get?_registered]
    exact (if_neg (by decide)).trans (List.find?_cons_of_pos hdeclares)
  have hname : a ≠ b := fun h =>
    absurd (congrArg (fun c : Command => c.card.name) h) (by decide : "a" ≠ "b")
  have hlisted' : r'.listed = [nameless] := by
    have hvalues : r'.values = [nameless] := rfl
    rw [listed, hvalues]
    exact Text.sortBy_of_pairwise (List.pairwise_singleton _ _)
  exact ⟨⟨hlisted, hfind, hname⟩, hlisted', rfl, rfl⟩

end Registry

end CommandShell
