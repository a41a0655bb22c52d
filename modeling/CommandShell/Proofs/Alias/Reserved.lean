import CommandShell.Proofs.Builtin.Effect
import CommandShell.Proofs.Builtin.Names
import CommandShell.Proofs.Execution.Action
import CommandShell.Proofs.Execution.Quoting

/-!
Aliases under the names of commands. The command for aliases creates none under such a name. But the
store that keeps them can be written to directly as well, and there a key is a key: nothing else
makes an alias of the name of a command, and that does.
-/

namespace CommandShell.Stack

open Builtin (SetKey NewKey)
open Session (Gains)

/-- Whether a moment is a call that sets a key of the store directly. -/
def Moment.Sets (k : String) (m : Moment) : Prop :=
  ∃ i, m.activity = .call i ∧ Text.lower i.name = "cache" ∧ SetKey i.args k

/-- A key that is in the store was there before, or was set directly at some moment. -/
def KeyFrom (k : String) (ms : List Moment) (x y : Session) : Prop :=
  y.store.contains k = true → x.store.contains k = true ∨ ∃ m ∈ ms, m.Sets k

theorem lower_eq_cache {name : String} {c : Command} (h : c ∈ Builtin.all)
    (hd : c.declares name = true) (hc : c.card.name = "cache") : Text.lower name = "cache" := by
  have ha : ∀ c ∈ Builtin.all, c.card.name = "cache" → c.card.aliases = [] := by decide
  have hm := (Builtin.declares_iff h).mp hd
  rwa [ha c h hc, hc, List.mem_singleton] at hm

theorem announced_store (c : Command) (s : Shell) :
    (if c.card.name = clearName then s.announceClear else s).session.store = s.session.store := by
  split
  · rw [Shell.announceClear]
    split <;> rfl
  · rfl

/-- No alias is created under the name of a command. -/
theorem not_newKey {n : String} (hn : (Builtin.registry.find? n).isSome = true) {args : List String}
    {c : Command} (hs : ¬(c.card.name = "cache" ∧ SetKey args (Alias.key n))) :
    ¬NewKey Builtin.registry.directory args c (Alias.key n) := by
  rintro (⟨-, name, hk, hc⟩ | hk)
  · obtain rfl := Alias.key_injective hk
    have hd : (Builtin.registry.directory.find? n).isSome = true := by
      rwa [Registry.find?_directory, Option.isSome_map]
    rw [Alias.check, hd, Bool.or_true, if_pos rfl] at hc
    split at hc <;> contradiction
  · exact hs hk

theorem key_account {n : String} (hn : (Builtin.registry.find? n).isSome = true) :
    Account Builtin.registry (KeyFrom (Alias.key n)) where
  still x hk := .inl hk
  next h h' hk := by
    rcases h' hk with hk | ⟨m, hm, hs⟩
    · rcases h hk with hk | ⟨m, hm, hs⟩
      · exact .inl hk
      · exact .inr ⟨m, List.mem_append_left _ hm, hs⟩
    · exact .inr ⟨m, List.mem_append_right _ hm, hs⟩
  seen s ha hk := .inl hk
  unknown hr hf hk := .inl hk
  called {i c s} hr hf := by
    obtain ⟨hm, hd⟩ := Builtin.mem_all_of_find? hf
    by_cases hs : c.card.name = "cache" ∧ SetKey i.args (Alias.key n)
    · refine .inl fun ms y hk => .inr ⟨_, List.mem_cons_self, i, rfl, ?_, hs.2⟩
      exact lower_eq_cache hm hd hs.1
    · have hdoes := Builtin.builtin_does Builtin.registry.directory i.args c hm
      refine .inr ⟨fun hk => .inl ?_, hdoes.mono fun x y hg hk => .inl ?_⟩
      · rwa [announced_store] at hk
      · exact (hg.keys hk).resolve_right (not_newKey hn hs)

/-! ## Setting such a key -/

theorem find?_cache : Builtin.registry.find? "cache" = some Builtin.cache := by
  rw [Builtin.find?_of_letters (by decide) (by decide)]
  rfl

theorem cache_handler (d : Directory) (args : List String) :
    Builtin.cache.handler d args = .finish (Builtin.Cache.run args) :=
  rfl

theorem cacheSet_store {operation : String} (ho : Text.lower operation = "set") (key word : String)
    (words : List String) (x : Session) :
    (Builtin.Cache.run (operation :: key :: word :: words) x).2.store =
      ⟨x.store.entries.insert key (.str (Text.joinWords (word :: words))), x.store.file⟩ := by
  have hs := (x.put_saves key (.str (Text.joinWords (word :: words)))).store
  rw [Builtin.Cache.run, ho]
  dsimp only [Builtin.Cache.set]
  generalize x.put key (.str (Text.joinWords (word :: words))) = out at hs
  obtain ⟨f | done, y⟩ := out <;> exact hs

theorem store_cacheSet {s : Shell} (hs : s.registry = Builtin.registry) {operation : String}
    (ho : Text.lower operation = "set") (key word : String) (words : List String) :
    (dispatch none ⟨"cache", operation :: key :: word :: words⟩ s).2.session.store =
      ⟨s.session.store.entries.insert key (.str (Text.joinWords (word :: words))),
        s.session.store.file⟩ := by
  have hc : Builtin.cache.card.name ≠ clearName := by decide
  rw [dispatch_action (hs ▸ find?_cache) hc (cache_handler _ _)]
  exact cacheSet_store ho key word words s.session

/-! ## One line -/

theorem leave_session (s : Shell) : s.leave.session = s.session :=
  rfl

/-- A line of one statement in which nothing is evaluated or replaced comes to one call. -/
theorem runLine_words {line : String} {s : Shell} (name : String) (args : List String)
    (hf : s.isFull = false) (hs : Syntax.splitStatements line = [line])
    (hc : Syntax.Quotation.Calm line.toList) (hb : Text.isBlankText line = false)
    (ht : Syntax.tokenize line = name :: args)
    (ha : Alias.isAlias s.session.store.entries name = false) :
    runLine none line s = ((dispatch none ⟨name, args⟩ s.enter).1.map fun r => [r],
      (dispatch none ⟨name, args⟩ s.enter).2.leave) := by
  exact runLine_called hf hs (parseWith_words (s := s.enter) hc hb ht ha)

/-- Settings that keep the store in memory. -/
def inMemory : Settings :=
  OrderedMap.ofList [("cache_file", .null)]

theorem isCommand_print {s : Shell} (hs : s.registry = Builtin.registry) :
    s.isCommand "print" = true := by
  rw [Shell.isCommand, hs, Builtin.find?_of_letters (by decide) (by decide)]
  decide

/-- A line that sets the key of an alias. -/
theorem runLine_set :
    (runLine none "cache set alias_print calc" (Shell.bare Builtin.registry 32)).2.session.store =
      ⟨OrderedMap.empty.insert "alias_print" (.str "calc"), none⟩ := by
  have hl : runLine none "cache set alias_print calc" (Shell.bare Builtin.registry 32) = _ :=
    runLine_words "cache" ["set", "alias_print", "calc"] (by decide) (by decide) (by decide)
      (by decide) (by decide) (by decide)
  have hs : (Shell.bare Builtin.registry 32).enter.registry = Builtin.registry := rfl
  have hd := store_cacheSet hs (Text.lower_of_letters (by decide)) "alias_print" "calc" []
  have hj : Text.joinWords ["calc"] = "calc" := by decide
  rw [hl]
  dsimp only
  rw [leave_session, hd, hj]
  rfl

theorem read_aliased {s : Shell}
    (hs : s.session.store.entries = OrderedMap.empty.insert "alias_print" (.str "calc")) :
    read none "print 1" s = .ok (some ⟨"calc", ["1"]⟩) := by
  have hstep : Alias.step s.session.store.entries ⟨"print", ["1"]⟩ = 
      .ok (⟨"calc", ["1"]⟩, false) := by
    rw [hs]
    decide
  have hw : Syntax.tokenize (s.session.expandVariables "print 1") = ["print", "1"] := by
    rw [expandVariables_calm (by decide)]
    decide
  simp only [read, Room.overflow?_none, hw, resolve, Room.above_none, hstep, Except.map]

/-- What there is after that line. -/
def afterSet : Shell :=
  (runLine none "cache set alias_print calc" (Shell.bare Builtin.registry 32)).2

theorem afterSet_registry : afterSet.registry = Builtin.registry := by
  rw [afterSet]
  exact (runLine_framed none _ (Shell.bare Builtin.registry 32)).registry_eq

theorem afterSet_entries :
    afterSet.session.store.entries = OrderedMap.empty.insert "alias_print" (.str "calc") := by
  rw [afterSet, runLine_set]

theorem isAlias_afterSet : Alias.isAlias afterSet.session.store.entries "print" = true := by
  rw [afterSet_entries]
  decide

theorem served_line (room : Room) (line : String) (s : Shell) :
    (served [(room, .line (some line))] s).2 = (runLine room line s).2 :=
  rfl

/-! ## Every session -/

/-- Only where its key is set directly does a command's name become an alias. While it is none,
words beginning with it call the command. -/
theorem alias_of_command {c : Settings} {announces : Bool} {w : Surroundings} {s : Shell}
    (h : Shell.ofSettings c announces w = .ok s) (requests : List (Room × Request)) {n : String}
    (hn : s.isCommand n = true) :
    let ms := (served requests s).1
    let s' := (served requests s).2
    (Alias.isAlias s'.session.store.entries n = true →
      Alias.isAlias s.session.store.entries n = true ∨ ∃ m ∈ ms, m.Sets (Alias.key n)) ∧
    (∀ operation word words, Text.lower operation = "set" →
      let set := dispatch none ⟨"cache", operation :: Alias.key n :: word :: words⟩ s'
      Alias.isAlias set.2.session.store.entries n = true) ∧
    (Alias.isAlias s'.session.store.entries n = false →
      ∀ text args, Syntax.tokenize (s'.session.expandVariables text) = n :: args →
        read none text s' = .ok (some ⟨n, args⟩) ∧
          s'.registry.find? n = Builtin.registry.find? n) := by
  have hs := Builtin.registry_of_settings h
  have hs' := (served_kept requests s).registry_eq.trans hs
  refine ⟨?_, ?_, ?_⟩
  · rw [Shell.isCommand, hs] at hn
    exact (key_account hn).served requests s hs
  · intro operation word words ho
    dsimp only
    rw [store_cacheSet hs' ho]
    exact (OrderedMap.contains_insert_iff _).mpr (.inl rfl)
  · intro ha text args ht
    refine ⟨?_, by rw [hs']⟩
    simp only [read, Room.overflow?_none, ht, Room.above_none, resolve_command ha, Except.map]

/-- A line sets the key of an alias, and without it the name is that of the command. -/
theorem alias_of_command_print :
    (Shell.ofSettings inMemory false .empty = .ok (Shell.bare Builtin.registry 32) ∧
      (Shell.bare Builtin.registry 32).isCommand "print" = true) ∧
    (∃ m ∈ (served [(none, .line (some "cache set alias_print calc"))]
      (Shell.bare Builtin.registry 32)).1, m.Sets (Alias.key "print")) ∧
    read none "print 1" (Shell.bare Builtin.registry 32) = .ok (some ⟨"print", ["1"]⟩) := by
  have hs : Shell.ofSettings inMemory false .empty = .ok (Shell.bare Builtin.registry 32) := rfl
  have hn : (Shell.bare Builtin.registry 32).isCommand "print" = true := isCommand_print rfl
  have hnot : Alias.isAlias (Shell.bare Builtin.registry 32).session.store.entries "print" =
      false := by decide
  refine ⟨⟨hs, hn⟩, ?_, ?_⟩
  · have hset := (alias_of_command hs [(none, .line (some "cache set alias_print calc"))] hn).1
    rw [served_line, ← afterSet, hnot] at hset
    exact (hset isAlias_afterSet).resolve_left Bool.false_ne_true
  · have hw : Syntax.tokenize ((Shell.bare Builtin.registry 32).session.expandVariables "print 1") =
        ["print", "1"] := by
      rw [expandVariables_calm (by decide)]
      decide
    exact ((alias_of_command hs [] hn).2.2 hnot "print 1" ["1"] hw).1

/-- A line makes an alias of the name of a command, and the name calls another command then. -/
theorem print_aliased :
    Shell.ofSettings inMemory false .empty = .ok (Shell.bare Builtin.registry 32) ∧
      (Shell.bare Builtin.registry 32).session.store.entries = OrderedMap.empty ∧
      afterSet.isCommand "print" = true ∧
      Alias.isAlias afterSet.session.store.entries "print" = true ∧
      read none "print 1" afterSet = .ok (some ⟨"calc", ["1"]⟩) :=
  ⟨rfl, rfl, isCommand_print afterSet_registry, isAlias_afterSet, read_aliased afterSet_entries⟩

end CommandShell.Stack
