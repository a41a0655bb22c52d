import CommandShell.Proofs.Builtin.Names
import CommandShell.Proofs.Command.Session
import CommandShell.Proofs.Execution.Action
import CommandShell.Startup

/-!
What a built-in command that fails has changed. It checks before it acts, and leaves the session
alone where it objects to something or is refused something. There are two ways in which it fails
after it has acted: the store cannot be saved although the system refuses nothing, and the stack is
used up in the middle of the work.
-/

namespace CommandShell

namespace Builtin

open Session (Alike Still Spoils)

variable {x : Session} {d : Directory} {args : List String}

/-! ## What a command that changes something leaves where it fails -/

/-- Whether an outcome that is shown as an error leaves a session alone, or comes of a store that
cannot be saved. -/
def Spares (x : Session) (o : Outcome) : Prop :=
  Stack.fails (Result.ofOutcome o.1) = true → x.Alike o.2 ∨ ∃ f, o.1 = .error f ∧ x.Spoils f o.2

theorem spares_of_still {o : Outcome} (h : Still x o.2) : Spares x o :=
  fun _ => .inl h.toAlike

theorem spares_of_success {o : Outcome} (h : Stack.fails (Result.ofOutcome o.1) = false) :
    Spares x o :=
  fun he => absurd he (by simp [h])

theorem spares_of_spoils {f : Fault} {y : Session} (h : x.Spoils f y) : Spares x (y.fail f) :=
  fun _ => .inr ⟨f, rfl, h⟩

theorem spares_remove (x : Session) (k : String) (absent : Complaint) (removed : String) :
    Spares x (match x.remove k with
      | (.error f, s) => s.fail f
      | (.ok false, s) => s.object absent
      | (.ok true, s) => s.answer (.text removed)) := by
  have hs := x.remove_saves k
  have hn := Session.remove_false (x := x) (k := k)
  rcases hr : x.remove k with ⟨f | _ | _, y⟩
  · rw [hr] at hs
    exact spares_of_spoils (hs.spoils rfl)
  · rw [hr] at hn
    exact fun _ => .inl (hn rfl)
  · exact spares_of_success rfl

section Store

variable (isCommand : String → Bool)

theorem aliasesRemove_spares (args : List String) (x : Session) :
    Spares x (Aliases.remove args x) := by
  unfold Aliases.remove
  split
  · exact spares_of_still (.refl x)
  · exact spares_remove x _ _ _

theorem aliasesClear_spares (x : Session) : Spares x (Aliases.clear x) := by
  unfold Aliases.clear
  rcases hr : x.clearAliases with ⟨f | _ | count, y⟩
  · rcases Session.clearAliases_error hr with rfl | hs
    · exact spares_of_still (.refl y)
    · exact spares_of_spoils hs
  · exact spares_of_success rfl
  · exact spares_of_success rfl

theorem aliasesCreate_spares (name : String) (words : List String) (x : Session) :
    Spares x (Aliases.create isCommand name words x) := by
  unfold Aliases.create
  split
  · exact spares_of_still (.refl x)
  · dsimp only
    have hs := x.put_saves (Alias.key name) (.str (Text.joinWords words))
    rw [Session.createAlias]
    split
    · rename_i hc
      split at hc
      · cases hc
        exact spares_of_still (.refl x)
      · rw [hc] at hs
        exact spares_of_spoils (hs.spoils rfl)
    · exact spares_of_success rfl

theorem aliases_spares (args : List String) (x : Session) :
    Spares x (Aliases.run isCommand args x) := by
  unfold Aliases.run
  split
  · exact spares_of_still (.refl x)
  · split
    · unfold Aliases.list
      split <;> exact spares_of_still (.refl x)
    · exact aliasesRemove_spares _ x
    · exact aliasesClear_spares x
    · exact aliasesCreate_spares isCommand _ _ x

theorem cacheSet_spares (args : List String) (x : Session) : Spares x (Cache.set args x) := by
  unfold Cache.set
  split
  · rename_i key word words
    have hs := x.put_saves key (.str (Text.joinWords (word :: words)))
    dsimp only
    rcases hr : x.put key (.str (Text.joinWords (word :: words))) with ⟨f | done, y⟩
    · rw [hr] at hs
      exact spares_of_spoils (hs.spoils rfl)
    · exact spares_of_success rfl
  · exact spares_of_still (.refl x)

theorem cacheRemove_spares (args : List String) (x : Session) :
    Spares x (Cache.remove args x) := by
  unfold Cache.remove
  split
  · exact spares_of_still (.refl x)
  · exact spares_remove x _ _ _

theorem cacheClear_spares (x : Session) : Spares x (Cache.clear x) := by
  unfold Cache.clear
  have hs := x.clearStore_saves
  rcases hr : x.clearStore with ⟨f | done, y⟩
  · rw [hr] at hs
    exact spares_of_spoils (hs.spoils rfl)
  · exact spares_of_success rfl

theorem cache_spares (args : List String) (x : Session) : Spares x (Cache.run args x) := by
  unfold Cache.run
  split
  · exact spares_of_still (.refl x)
  · split
    · exact cacheSet_spares _ x
    · unfold Cache.get
      repeat' split
      all_goals exact spares_of_still (.refl x)
    · exact cacheRemove_spares _ x
    · exact cacheClear_spares x
    · unfold Cache.list
      split <;> exact spares_of_still (.refl x)
    · exact spares_of_still (.refl x)

end Store

/-- Every command that runs no lines is one action. -/
theorem builtin_finish (d : Directory) (args : List String) :
    ∀ c ∈ all, c.card.name ≠ "script" → ∃ act, c.handler d args = .finish act := by
  simp only [all, List.forall_mem_cons]
  refine ⟨?print, ?var, ?shorthand, ?cache, ?calculate, ?clear, ?exit, ?env, ?help, ?cd, ?ls,
    ?mkdir, ?touch, ?read, ?write, ?rm, ?open_, ?script, ?ask, ?none⟩
  case script => exact fun hn => absurd rfl hn
  case calculate =>
    rw [calculate]
    cases args <;> exact fun _ => ⟨_, rfl⟩
  case none => exact fun c hc => absurd hc List.not_mem_nil
  all_goals exact fun _ => ⟨_, rfl⟩

/-- Only the commands for the store fail after they have acted. -/
theorem builtin_spares (d : Directory) (args : List String) :
    ∀ c ∈ all, c.card.name ∈ changing → ∀ act, c.handler d args = .finish act → ∀ x,
      Stack.fails (Result.ofOutcome (act x).1) = true →
      x.Alike (act x).2 ∨ c.card.name ∈ ["alias", "cache"] ∧
        ∃ f, (act x).1 = .error f ∧ x.Spoils f (act x).2 := by
  simp only [all, List.forall_mem_cons]
  refine ⟨?print, ?var, ?shorthand, ?cache, ?calculate, ?clear, ?exit, ?env, ?help, ?cd, ?ls,
    ?mkdir, ?touch, ?read, ?write, ?rm, ?open_, ?script, ?ask, ?none⟩
  case var =>
    rintro - _ ⟨⟩ x he
    rcases var_cases args x with h | ⟨vars, text, h⟩
    · exact .inl h.toAlike
    · rw [h] at he
      contradiction
  case env =>
    rintro - _ ⟨⟩ x he
    rcases env_cases args x with h | ⟨environment, text, h⟩
    · exact .inl h.toAlike
    · rw [h] at he
      contradiction
  case cd =>
    rintro - _ ⟨⟩ x he
    rcases change_cases args x with h | ⟨target, p, -, h⟩
    · exact .inl h.toAlike
    · rw [h] at he
      contradiction
  case exit =>
    rintro - _ ⟨⟩ x he
    contradiction
  case shorthand =>
    rintro - _ ⟨⟩ x he
    exact (aliases_spares _ args x he).imp_right fun h => ⟨by decide, h⟩
  case cache =>
    rintro - _ ⟨⟩ x he
    exact (cache_spares args x he).imp_right fun h => ⟨by decide, h⟩
  case none => exact fun c hc => absurd hc List.not_mem_nil
  all_goals exact fun hn => absurd hn (by decide)

/-! ## What a call leaves where it fails -/

/-- What is left of a session by a call that fails. -/
inductive Left (room : Room) (c : Command) (x : Session) : Except Fault Result → Session → Prop
  | alone {r y} (h : x.Alike y) : Left room c x r y
  | unsaved {p f entries disk} (hc : c.card.name ∈ ["alias", "cache"]) (hp : x.store.file = some p)
      (hw : Store.Unsavable p entries f) :
      Left room c x (Result.ofFault (.file f)) { x with store := ⟨entries, some p⟩, disk }
  | overflown {o y} (hc : c.card.name ∈ changing) (hr : room ≠ none) :
      Left room c x (Result.ofFault (.overflow o)) y

theorem left_of_spoils {room : Room} {c : Command} {f : Fault} {y : Session}
    (hc : c.card.name ∈ ["alias", "cache"])
    (hp : ∀ p, x.store.file = some p → p.name ≠ "" ∧ '\x00' ∉ p.text.toList) (h : x.Spoils f y) :
    Left room c x (Result.ofFault f) y := by
  obtain ⟨hu⟩ := h
  obtain ⟨hf, hw, hs⟩ := hu
  obtain ⟨hn, h0⟩ := hp _ hf
  rw [hf]
  exact .unsaved hc hf (Store.writeEntries_raised hn h0 hw hs)

section Call

variable {room : Room} {c : Command} {s : Shell} {act : Session → Outcome}
  {out : Except Fault Output × Shell}

theorem still_of_acted (h : Stack.Acted room c args act s out)
    (hh : c.handler s.registry.directory args = .finish act)
    (hd : c.Does Still s.registry.directory args) : Still s.session out.2.session := by
  have ha : ∀ x, Still x (act x).2 := by
    have hp := hd.handler
    rw [hh] at hp
    exact hp
  cases h with
  | overrun hr hs => exact hd.strain hs
  | unshown => exact ha _
  | acted => exact ha _

theorem left_of_acted (h : Stack.Acted (room.above Stack.commandLevels) c args act s out)
    (hh : c.handler s.registry.directory args = .finish act) (hm : c ∈ all)
    (hc : c.card.name ∈ changing)
    (hp : ∀ p, s.session.store.file = some p → p.name ≠ "" ∧ '\x00' ∉ p.text.toList)
    (he : Stack.fails (Result.ofOutcome out.1) = true) :
    Left room c s.session (Result.ofOutcome out.1) out.2.session := by
  cases h with
  | @overrun levels o y hr hs => exact .overflown hc (by rintro rfl; contradiction)
  | unshown hr => exact .overflown hc (by rintro rfl; contradiction)
  | acted =>
      rcases builtin_spares _ _ c hm hc act hh _ he with ha | ⟨hc', f, hf, hs⟩
      · exact .alone ha
      · rw [hf]
        exact left_of_spoils hc' hp hs

theorem announced_alike (c : Command) (s : Shell) :
    s.session.Alike (if c.card.name = Stack.clearName then s.announceClear else s).session := by
  split
  · rw [Shell.announceClear]
    split
    · exact ⟨rfl, rfl, rfl, rfl, rfl⟩
    · exact .refl _
  · exact .refl _

/-- Most commands leave the session alone whatever comes of them. -/
theorem dispatch_alike (room : Room) (s : Shell) {i : Invocation}
    (hf : s.registry.find? i.name = some c) (hm : c ∈ all)
    (hc : c.card.name ∉ "script" :: changing) :
    s.session.Alike (Stack.dispatch room i s).2.session := by
  have hn : c.card.name ≠ "script" := fun h => hc (h ▸ List.mem_cons_self)
  have ha := announced_alike c s
  rw [Stack.dispatch, Stack.dispatchWith, hf]
  dsimp only
  generalize (if c.card.name = Stack.clearName then s.announceClear else s) = t at ha
  obtain ⟨act, hh⟩ := builtin_finish t.registry.directory i.args c hm hn
  have hd := builtin_still t.registry.directory i.args c hm hc
  exact ha.trans (still_of_acted (Stack.perform_acted hh) hh hd).toAlike

end Call

/-- A built-in command that runs no lines and fails leaves the session alone, unless a save fails or
the stack is used up. -/
theorem failure_spares (room : Room) (s : Shell) {i : Invocation} {c : Command}
    (hf : s.registry.find? i.name = some c) (hm : c ∈ all) (hn : c.card.name ≠ "script")
    (hp : ∀ p, s.session.store.file = some p → p.name ≠ "" ∧ '\x00' ∉ p.text.toList)
    (he : Stack.fails (Stack.dispatch room i s).1 = true) :
    s.Kept (Stack.dispatch room i s).2 ∧
      Left room c s.session (Stack.dispatch room i s).1 (Stack.dispatch room i s).2.session := by
  refine ⟨Stack.dispatchWith_kept Stack.runLine_framed room i s, ?_⟩
  by_cases hc : c.card.name ∈ changing
  · obtain ⟨act, hh⟩ := builtin_finish s.registry.directory i.args c hm hn
    have hclear : c.card.name ≠ Stack.clearName := by
      intro h
      rw [h] at hc
      exact absurd hc (by decide)
    rw [Stack.dispatch, Stack.dispatchWith_of_find? hf hclear] at he ⊢
    exact left_of_acted (Stack.perform_acted hh) hh hm hc hp he
  · exact .alone (dispatch_alike room s hf hm (by simp [hn, hc]))

/-- A shell with all built-in commands, and a store that has a file. -/
def filed (entries : OrderedMap String Json) : Shell :=
  let s := Shell.bare registry 32
  { s with session := { s.session with store := ⟨entries, some ⟨.slash, ["store.json"]⟩⟩ } }

/-- A directory that is not there. -/
theorem failure_spares_cd :
    let s := filed (OrderedMap.ofList [("k", .int 1)])
    let i : Invocation := ⟨"cd", ["nowhere"]⟩
    (s.registry.find? i.name = some cd ∧ cd ∈ all ∧ cd.card.name ≠ "script" ∧
      (∀ p, s.session.store.file = some p → p.name ≠ "" ∧ '\x00' ∉ p.text.toList) ∧
      Stack.fails (Stack.dispatch none i s).1 = true) ∧
    s.session.Alike (Stack.dispatch none i s).2.session := by
  intro s i
  have hf : s.registry.find? i.name = some cd := by
    have hs : s.registry = registry := rfl
    rw [hs, find?_of_letters (by decide) (by decide)]
    rfl
  have hm : cd ∈ all := by simp [all]
  have hp : ∀ p, s.session.store.file = some p → p.name ≠ "" ∧ '\x00' ∉ p.text.toList := by
    rintro p ⟨⟩
    decide
  have he : Stack.fails (Stack.dispatch none i s).1 = true := by
    rw [Stack.dispatch, Stack.dispatchWith_of_find? hf (by decide)]
    decide +kernel
  refine ⟨⟨hf, hm, by decide, hp, he⟩, ?_⟩
  obtain ⟨-, hl⟩ := failure_spares none s hf hm (by decide) hp he
  revert hl
  generalize (Stack.dispatch none i s).1 = r, (Stack.dispatch none i s).2.session = y
  intro hl
  cases hl with
  | alone h => exact h
  | unsaved hc => exact absurd hc (by decide)
  | overflown hc hr => exact absurd rfl hr

/-- Half of a surrogate pair in the store keeps a new value from being saved. The result is an
error, and the value is there. -/
theorem cacheSet_kept :
    let s := filed (OrderedMap.ofList [("a", .str (String.ofList (Text.Code.hold 0xD800)))])
    let i : Invocation := ⟨"cache", ["set", "b", "x"]⟩
    Stack.fails (Stack.dispatch none i s).1 = true ∧ s.session.store.contains "b" = false ∧
      (Stack.dispatch none i s).2.session.store.contains "b" = true := by
  intro s i
  have hf : s.registry.find? i.name = some cache := by
    have hs : s.registry = registry := rfl
    rw [hs, find?_of_letters (by decide) (by decide)]
    rfl
  rw [Stack.dispatch, Stack.dispatchWith_of_find? hf (by decide)]
  decide +kernel

end Builtin

end CommandShell
