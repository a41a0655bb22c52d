import CommandShell.Proofs.Command.Session
import CommandShell.Proofs.Files.Resolution
import CommandShell.Proofs.Json.Writable

/-!
What the built-in commands do to a session by themselves. None clears the screen, which is left to
whoever calls them, the one that moves the session resolves where it moves, and only two of them
bring new keys into the store: one for aliases, which takes no name of a command, and one for any
values, which takes whatever it is given.
-/

namespace CommandShell

/-- Whether every value that is kept has a text. -/
def Store.Writable (st : Store) : Prop :=
  ∀ e ∈ st.entries.entries, e.2.isWritable = true

/-! ## New keys -/

/-- Whether a session comes from another one with no clearing of the screen, in a normal directory
if it was in one, and with no keys in its store but those that were there and certain new ones. New
values have texts. -/
structure Session.Gains (new : String → Prop) (x y : Session) : Prop where
  clears_eq : y.clears = x.clears
  normal (h : x.cwd.IsNormal) : y.cwd.IsNormal
  keys {k : String} (h : y.store.contains k = true) : x.store.contains k = true ∨ new k
  writable (h : x.store.Writable) : y.store.Writable

namespace Session

variable {new new' : String → Prop} {x y z : Session}

namespace Gains

theorem of_eq (hc : y.clears = x.clears) (hp : y.cwd = x.cwd) (hs : y.store = x.store) :
    Gains new x y :=
  ⟨hc, fun h => hp ▸ h, fun h => .inl (hs ▸ h), fun h => hs ▸ h⟩

theorem refl (x : Session) : Gains new x x :=
  of_eq rfl rfl rfl

theorem trans (h : Gains new x y) (h' : Gains new y z) : Gains new x z :=
  ⟨h'.clears_eq.trans h.clears_eq, fun hx => h'.normal (h.normal hx),
    fun hk => (h'.keys hk).elim h.keys .inr, fun hx => h'.writable (h.writable hx)⟩

theorem mono (h : Gains new x y) (hn : ∀ k, new k → new' k) : Gains new' x y :=
  ⟨h.clears_eq, h.normal, fun hk => (h.keys hk).imp_right (hn _), h.writable⟩

end Gains

theorem Still.gains (h : Still x y) : Gains new x y :=
  .of_eq h.clears_eq h.cwd_eq h.store_eq

/-! ## The store -/

/-- Whether some entries come from those of a store, with certain new keys and values with texts. -/
structure Enters (new : String → Prop) (st : Store) (entries : OrderedMap String Json) : Prop where
  keys {k : String} (h : entries.contains k = true) : st.contains k = true ∨ new k
  writable (h : st.Writable) : ∀ e ∈ entries.entries, e.2.isWritable = true

theorem enters_insert (st : Store) (k s : String) :
    Enters (· = k) st (st.entries.insert k (.str s)) := by
  refine ⟨fun hk => ((OrderedMap.contains_insert_iff _).mp hk).symm, fun h e he => ?_⟩
  rcases OrderedMap.mem_insertEntry he with rfl | he
  · exact Json.isWritable_str s
  · exact h e he

theorem enters_erase (st : Store) (k : String) : Enters new st (st.entries.erase k) :=
  ⟨fun hk => .inl (OrderedMap.contains_of_erase hk), fun h e he => h e (List.mem_filter.mp he).1⟩

theorem enters_empty (st : Store) : Enters new st OrderedMap.empty :=
  ⟨nofun, fun _ _ he => absurd he List.not_mem_nil⟩

theorem Enters.gains {entries : OrderedMap String Json} (he : Enters new x.store entries)
    (disk : Disk) : Gains new x { x with store := ⟨entries, x.store.file⟩, disk } :=
  ⟨rfl, id, he.keys, he.writable⟩

/-- A change of the store brings in the keys that its entries then have. -/
theorem Saves.gains {α : Type} {entries : OrderedMap String Json} {a : α}
    {out : Except Fault α × Session} (h : x.Saves entries a out) (he : Enters new x.store entries) :
    Gains new x out.2 := by
  obtain ⟨disk, hd⟩ := h.state
  rw [hd]
  exact he.gains disk

theorem put_gains (x : Session) (k s : String) : Gains (· = k) x (x.put k (.str s)).2 :=
  (x.put_saves k (.str s)).gains (enters_insert _ k s)

theorem remove_gains (x : Session) (k : String) : Gains new x (x.remove k).2 :=
  (x.remove_saves k).gains (enters_erase _ k)

theorem clearStore_gains (x : Session) : Gains new x x.clearStore.2 :=
  x.clearStore_saves.gains (enters_empty _)

theorem createAlias_gains (x : Session) (isCommand : String → Bool) (name text : String) :
    Gains (fun k => k = Alias.key name ∧ Alias.check isCommand name = .ok ()) x
      (x.createAlias isCommand name text).2 := by
  rw [createAlias]
  split
  · exact .refl x
  · rename_i hc
    exact (x.put_gains _ _).mono fun k hk => ⟨hk, hc⟩

theorem removeAll_gains (x : Session) (keys : List String) : Gains new x (x.removeAll keys).2 := by
  induction keys generalizing x with
  | nil => exact .refl x
  | cons k rest ih =>
      have hr : Gains new x (x.remove k).2 := x.remove_gains k
      rw [removeAll]
      cases h : x.remove k with
      | mk o y =>
          rw [h] at hr
          cases o with
          | error f => exact hr
          | ok there => exact hr.trans (ih y)

theorem clearAliases_gains (x : Session) : Gains new x x.clearAliases.2 := by
  rw [clearAliases]
  cases Alias.all x.store.entries with
  | error f => exact .refl x
  | ok all =>
      have hr : Gains new x (x.removeAll ((all.map Prod.fst).map Alias.key)).2 :=
        x.removeAll_gains _
      dsimp only
      generalize x.removeAll ((all.map Prod.fst).map Alias.key) = out at hr
      obtain ⟨f | done, y⟩ := out <;> exact hr

/-! ## Overruns -/

theorem changeOverrun?_overran {room : Nat} {entries : OrderedMap String Json}
    (he : Enters new x.store entries) : Overran (Gains new) x (x.changeOverrun? room entries) := by
  intro o y ho
  obtain ⟨_, -, he'⟩ := Option.map_eq_some_iff.mp ho
  cases he'
  exact he.gains x.disk

theorem putOverrun?_overran (room : Nat) (k s : String) :
    Overran (Gains (· = k)) x (x.putOverrun? room k (.str s)) :=
  (overran_climb (.refl x) _ _).orElse (changeOverrun?_overran (enters_insert _ k s))

theorem removeOverrun?_overran (room : Nat) (k : String) :
    Overran (Gains new) x (x.removeOverrun? room k) := by
  refine (overran_climb (.refl x) _ _).orElse ?_
  split
  · exact changeOverrun?_overran (enters_erase _ k)
  · exact .none

theorem clearOverrun?_overran (room : Nat) : Overran (Gains new) x (x.clearOverrun? room) :=
  (overran_climb (.refl x) _ _).orElse (changeOverrun?_overran (enters_empty _))

theorem createAliasOverrun?_overran (room : Nat) (isCommand : String → Bool) (name text : String) :
    Overran (Gains fun k => k = Alias.key name ∧ Alias.check isCommand name = .ok ()) x
      (x.createAliasOverrun? room isCommand name text) := by
  refine (overran_climb (.refl x) _ _).orElse ?_
  split
  · exact .none
  · rename_i hc
    exact (putOverrun?_overran _ _ _).mono fun y hg => hg.mono fun k hk => ⟨hk, hc⟩

theorem clearAliasesOverrun?_overran (room : Nat) :
    Overran (Gains new) x (x.clearAliasesOverrun? room) := by
  refine (overran_climb (.refl x) _ _).orElse ?_
  split
  · exact removeOverrun?_overran _ _
  · exact .none

end Session

namespace Builtin

open Session (Gains Overran)

variable {new : String → Prop} {x : Session}

/-! ## Commands that leave the store alone -/

theorem change_gains (args : List String) (x : Session) : Gains new x (Browse.change args x).2 := by
  rcases change_cases args x with h | ⟨target, p, hp, h⟩
  · exact h.gains
  · rw [h]
    exact ⟨rfl, fun hx => hx.resolve hp, .inl, id⟩

theorem env_gains (args : List String) (x : Session) : Gains new x (Env.run args x).2 := by
  rcases env_cases args x with h | ⟨environment, text, h⟩
  · exact h.gains
  · rw [h]
    exact .of_eq rfl rfl rfl

theorem var_gains (args : List String) (x : Session) : Gains new x (Var.run args x).2 := by
  rcases var_cases args x with h | ⟨vars, text, h⟩
  · exact h.gains
  · rw [h]
    exact .of_eq rfl rfl rfl

/-! ## Commands for the store -/

section Store

variable (isCommand : String → Bool)

/-- The keys of the aliases that may be created. -/
def AliasKey (k : String) : Prop :=
  ∃ name, k = Alias.key name ∧ Alias.check isCommand name = .ok ()

theorem removeAlias_gains (args : List String) (x : Session) :
    Gains new x (Aliases.remove args x).2 := by
  unfold Aliases.remove
  split
  · exact .refl x
  · rename_i name _
    have hr : Gains new x (x.remove (Alias.key name)).2 := x.remove_gains _
    rw [Session.removeAlias]
    generalize x.remove (Alias.key name) = out at hr
    obtain ⟨f | _ | _, y⟩ := out <;> exact hr

theorem clearAliases_gains (x : Session) : Gains new x (Aliases.clear x).2 := by
  have hc : Gains new x x.clearAliases.2 := x.clearAliases_gains
  unfold Aliases.clear
  generalize x.clearAliases = out at hc
  obtain ⟨f | _ | count, y⟩ := out <;> exact hc

theorem createAlias_gains (name : String) (words : List String) (x : Session) :
    Gains (AliasKey isCommand) x (Aliases.create isCommand name words x).2 := by
  unfold Aliases.create
  split
  · exact .refl x
  · have hc : Gains (AliasKey isCommand) x
        (x.createAlias isCommand name (Text.joinWords words)).2 :=
      (x.createAlias_gains isCommand name _).mono fun k h => ⟨name, h⟩
    dsimp only
    generalize x.createAlias isCommand name (Text.joinWords words) = out at hc
    obtain ⟨f | done, y⟩ := out <;> exact hc

theorem aliases_gains (args : List String) (x : Session) :
    Gains (AliasKey isCommand) x (Aliases.run isCommand args x).2 := by
  unfold Aliases.run
  split
  · exact .refl x
  · split
    · unfold Aliases.list
      split <;> exact .refl x
    · exact removeAlias_gains _ x
    · exact clearAliases_gains x
    · exact createAlias_gains isCommand _ _ x

theorem aliasesOverrun?_overran (room : Nat) (args : List String) (x : Session) :
    Overran (Gains (AliasKey isCommand)) x (Aliases.overrun? isCommand room args x) := by
  unfold Aliases.overrun?
  split
  · exact .none
  · split
    · exact Session.overran_climb (.refl x) _ _
    · exact Session.removeOverrun?_overran _ _
    · exact .none
    · exact Session.clearAliasesOverrun?_overran _
    · exact .none
    · exact (Session.createAliasOverrun?_overran _ _ _ _).mono fun y hg => hg.mono fun k h => ⟨_, h⟩

/-- The key that a call of the command for any values sets. -/
def SetKey (args : List String) (k : String) : Prop :=
  ∃ operation word words, args = operation :: k :: word :: words ∧ Text.lower operation = "set"

theorem cacheSet_gains (operation : String) (hs : Text.lower operation = "set")
    (args : List String) (x : Session) :
    Gains (SetKey (operation :: args)) x (Cache.set args x).2 := by
  unfold Cache.set
  split
  · rename_i key word words
    have hp : Gains (SetKey (operation :: key :: word :: words)) x
        (x.put key (.str (Text.joinWords (word :: words)))).2 :=
      (x.put_gains key _).mono fun k hk => ⟨operation, word, words, by rw [hk], hs⟩
    dsimp only
    generalize x.put key (.str (Text.joinWords (word :: words))) = out at hp
    obtain ⟨f | done, y⟩ := out <;> exact hp
  · exact .refl x

theorem cacheRemove_gains (args : List String) (x : Session) :
    Gains new x (Cache.remove args x).2 := by
  unfold Cache.remove
  split
  · exact .refl x
  · rename_i key _
    have hr : Gains new x (x.remove key).2 := x.remove_gains key
    generalize x.remove key = out at hr
    obtain ⟨f | _ | _, y⟩ := out <;> exact hr

theorem cacheClear_gains (x : Session) : Gains new x (Cache.clear x).2 := by
  have hc : Gains new x x.clearStore.2 := x.clearStore_gains
  unfold Cache.clear
  generalize x.clearStore = out at hc
  obtain ⟨f | done, y⟩ := out <;> exact hc

theorem cache_gains (args : List String) (x : Session) :
    Gains (SetKey args) x (Cache.run args x).2 := by
  unfold Cache.run
  split
  · exact .refl x
  · split
    · exact cacheSet_gains _ ‹_› _ x
    · unfold Cache.get
      repeat' split
      all_goals exact .refl x
    · exact cacheRemove_gains _ x
    · exact cacheClear_gains x
    · unfold Cache.list
      split <;> exact .refl x
    · exact .refl x

theorem cacheOverrun?_overran (room : Nat) (args : List String) (x : Session) :
    Overran (Gains (SetKey args)) x (Cache.overrun? room args x) := by
  unfold Cache.overrun?
  split
  · exact .none
  · split
    · rename_i hs
      exact (Session.putOverrun?_overran _ _ _).mono fun y hg =>
        hg.mono fun k hk => hk ▸ ⟨_, _, _, rfl, hs⟩
    · exact Session.overran_climb (.refl x) _ _
    · exact Session.removeOverrun?_overran _ _
    · exact Session.clearOverrun?_overran _
    · exact Session.overran_climb (.refl x) _ _
    · exact .none

end Store

/-! ## All of them -/

/-- The keys that a command may bring into the store by itself. -/
def NewKey (d : Directory) (args : List String) (c : Command) (k : String) : Prop :=
  c.card.name = "alias" ∧ AliasKey (fun name => (d.find? name).isSome) k ∨
    c.card.name = "cache" ∧ SetKey args k

theorem builtin_does (d : Directory) (args : List String) :
    ∀ c ∈ all, c.Does (Gains (NewKey d args c)) d args := by
  intro c hc
  by_cases hn : c.card.name ∈ "script" :: changing
  · revert hn
    revert c
    simp only [all, List.forall_mem_cons]
    refine ⟨?print, ?var, ?shorthand, ?cache, ?calculate, ?clear, ?exit, ?env, ?help, ?cd, ?ls,
      ?mkdir, ?touch, ?read, ?write, ?rm, ?open_, ?script, ?ask, ?none⟩
    case var => exact fun _ => Command.does_of_climb .refl (var_gains args) rfl
    case shorthand =>
      refine fun _ => Command.does_of_overrun (fun x => ?_) rfl fun room x => ?_
      · exact (aliases_gains _ args x).mono fun k hk => .inl ⟨rfl, hk⟩
      · exact (aliasesOverrun?_overran _ room args x).mono fun y hg =>
          hg.mono fun k hk => .inl ⟨rfl, hk⟩
    case cache =>
      refine fun _ => Command.does_of_overrun (fun x => ?_) rfl fun room x => ?_
      · exact (cache_gains args x).mono fun k hk => .inr ⟨rfl, hk⟩
      · exact (cacheOverrun?_overran room args x).mono fun y hg =>
          hg.mono fun k hk => .inr ⟨rfl, hk⟩
    case exit => exact fun _ => Command.does_of_slight (fun x => .of_eq rfl rfl rfl) rfl
    case env => exact fun _ => Command.does_of_slight (env_gains args) rfl
    case cd => exact fun _ => Command.does_of_climb .refl (change_gains args) rfl
    case script => exact fun _ => Command.does_of_climb .refl (script_does .refl args) rfl
    case none => exact fun c hc => absurd hc List.not_mem_nil
    all_goals exact fun hn => absurd hn (by decide)
  · exact (builtin_still d args c hc hn).mono fun _ _ h => h.gains

end Builtin

end CommandShell
