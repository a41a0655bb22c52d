import CommandShell.Proofs.Alias.Reserved
import CommandShell.Proofs.Alias.Typing

/-!
Aliases that are made of words. The command for aliases keeps its words as one text, with spaces
between them. What is read of this text are the same words if they are plain, and others if not.
-/

namespace CommandShell

/-! ## Creating an alias -/

theorem Session.createAlias_ok {x y : Session} {isCommand : String → Bool} {name text : String}
    (h : x.createAlias isCommand name text = (.ok (), y)) :
    y.store.entries = x.store.entries.insert (Alias.key name) (.str text) := by
  rw [createAlias] at h
  split at h
  · cases h
  · have hs := (x.put_saves (Alias.key name) (.str text)).store
    rw [h] at hs
    exact congrArg Store.entries hs

namespace Builtin.Aliases

variable {isCommand : String → Bool} {name word : String} {words : List String} {x y : Session}
  {output : Output}

theorem run_create (hl : Text.lower name ∉ ["list", "remove", "clear"]) :
    run isCommand (name :: words) x = create isCommand name words x := by
  simp only [List.mem_cons, List.not_mem_nil, or_false, not_or] at hl
  rw [run]
  split
  · exact absurd ‹_› hl.1
  · exact absurd ‹_› hl.2.1
  · exact absurd ‹_› hl.2.2
  · rfl

theorem create_ok (h : create isCommand name (word :: words) x = (.ok output, y)) :
    y.store.entries =
      x.store.entries.insert (Alias.key name) (.str (Text.joinWords (word :: words))) := by
  rw [create.eq_def] at h
  dsimp only at h
  cases hc : x.createAlias isCommand name (Text.joinWords (word :: words)) with
  | mk r z =>
      rw [hc] at h
      cases r with
      | error f => cases h
      | ok done =>
          cases h
          exact Session.createAlias_ok hc

end Builtin.Aliases

namespace Stack

open Syntax (Plain)

section Create

variable {room : Room} {s : Shell}

/-- Creating an alias keeps its words as they are joined. -/
theorem dispatch_create {command name head : String} {own : List String}
    (hf : s.registry.find? command = some Builtin.shorthand)
    (hl : Text.lower name ∉ ["list", "remove", "clear"])
    (h : succeeds (dispatch room ⟨command, name :: head :: own⟩ s).1 = true) :
    (dispatch room ⟨command, name :: head :: own⟩ s).2.session.store.entries =
      s.session.store.entries.insert (Alias.key name) (.str (Text.joinWords (head :: own))) := by
  have hc : Builtin.shorthand.card.name ≠ clearName := by decide
  rw [dispatch, dispatchWith_of_find? hf hc] at h ⊢
  obtain ⟨output, hp⟩ := ok_of_succeeds h
  have ha := perform_action_ok rfl hp
  rw [Builtin.Aliases.run_create hl] at ha
  exact Builtin.Aliases.create_ok ha

end Create

/-! ## Using it -/

section Use

variable {entries : Alias.Entries} {room : Room} {name head t : String} {own : List String}

/-- An alias whose first word is another name and no alias is resolved to its words. -/
theorem resolve_stays (hg : entries.get? (Alias.key name) = some (.str t))
    (ht : Syntax.tokenize t = head :: own) (ha : Alias.isAlias entries head = false)
    (hr : room.overflow? arrivalClimb = none) (maxDepth walked : Int) (args : List String) :
    resolve entries maxDepth room ⟨name, args⟩ walked = .ok ⟨head, own ++ args⟩ := by
  have hs : Alias.step entries ⟨name, args⟩ = .ok (⟨head, own ++ args⟩, false) := by
    simp [Alias.step, Alias.isAlias_of_get? hg, Alias.wordsOf_of_get? hg, ht, ha]
  have hd : ((entries.get? (Alias.key name)).map Json.displayingClimb).getD [] = [] := by
    rw [hg]
    rfl
  rw [resolve_of_stay hs]
  simp only [hopClimb_fits hd hr, hr]

theorem isAlias_insert_of_ne {v : Json} (h : head ≠ name) :
    Alias.isAlias (entries.insert (Alias.key name) v) head = Alias.isAlias entries head := by
  have hk : Alias.key name ≠ Alias.key head := fun hk => h (Alias.key_injective hk).symm
  rw [Alias.isAlias, Alias.isAlias, ← OrderedMap.isSome_get?, ← OrderedMap.isSome_get?,
    OrderedMap.get?_insert_of_ne _ hk]

end Use

/-- What the command for aliases has created is kept as one text, and replays its words if and only
if they are plain. -/
theorem alias_replays (room : Room) (s : Shell) {command name head : String} {own : List String}
    (hf : s.registry.find? command = some Builtin.shorthand)
    (hl : Text.lower name ∉ ["list", "remove", "clear"]) (hw : ∀ w ∈ head :: own, w ≠ "")
    (hne : head ≠ name) (ha : Alias.isAlias s.session.store.entries head = false)
    (h : succeeds (dispatch room ⟨command, name :: head :: own⟩ s).1 = true) :
    let entries := (dispatch room ⟨command, name :: head :: own⟩ s).2.session.store.entries
    Alias.text? entries name = .ok (some (Text.joinWords (head :: own))) ∧
    (Alias.wordsOf entries name = .ok (head :: own) ↔ Plain (head :: own)) ∧
    (Plain (head :: own) → ∀ (args : List String) (maxDepth : Int) (room : Room),
      room.overflow? arrivalClimb = none →
      resolve entries maxDepth room ⟨name, args⟩ 0 = .ok ⟨head, own ++ args⟩) := by
  dsimp only
  rw [dispatch_create hf hl h]
  have hg := OrderedMap.get?_insert_self (k := Alias.key name)
    (v := Json.str (Text.joinWords (head :: own))) s.session.store.entries
  have ha' : Alias.isAlias (s.session.store.entries.insert (Alias.key name)
      (.str (Text.joinWords (head :: own)))) head = false := (isAlias_insert_of_ne hne).trans ha
  refine ⟨?_, ?_, ?_⟩
  · simp [Alias.text?, hg, Json.display, Except.map]
  · rw [Alias.wordsOf_of_get? hg, Except.ok.injEq]
    exact Syntax.tokenize_joinWords_iff hw
  · intro hp args maxDepth room hr
    exact resolve_stays hg ((Syntax.tokenize_joinWords_iff hw).mpr hp) ha' hr maxDepth 0 args

/-- Words in which a backslash stands for itself. -/
theorem alias_replays_print :
    let s := Shell.bare (Registry.empty.register Builtin.shorthand) 32
    (s.registry.find? "alias" = some Builtin.shorthand ∧
      Text.lower "g" ∉ ["list", "remove", "clear"] ∧ (∀ w ∈ ["print", "a\\n"], w ≠ "") ∧
      Alias.isAlias s.session.store.entries "print" = false ∧
      succeeds (dispatch none ⟨"alias", ["g", "print", "a\\n"]⟩ s).1 = true ∧
      Plain ["print", "a\\n"]) ∧
    resolve (dispatch none ⟨"alias", ["g", "print", "a\\n"]⟩ s).2.session.store.entries 32 none
      ⟨"g", ["b c"]⟩ 0 = .ok ⟨"print", ["a\\n", "b c"]⟩ := by
  intro s
  have hf : s.registry.find? "alias" = some Builtin.shorthand := rfl
  have hl : Text.lower "g" ∉ ["list", "remove", "clear"] := by
    rw [Text.lower_of_letters (by decide)]
    decide
  have hw : ∀ w ∈ ["print", "a\\n"], w ≠ "" := by decide
  have ha : Alias.isAlias s.session.store.entries "print" = false := by decide
  have h : succeeds (dispatch none ⟨"alias", ["g", "print", "a\\n"]⟩ s).1 = true := by
    decide +kernel
  have hp : Plain ["print", "a\\n"] := ⟨by decide, by decide⟩
  have hr := (alias_replays none s hf hl hw (by decide) ha h).2.2 hp ["b c"] 32 none rfl
  exact ⟨⟨hf, hl, hw, ha, h, hp⟩, hr⟩

/-- A word with a space in it, which becomes two. -/
theorem alias_splits :
    let s := Shell.bare Builtin.registry 32
    (s.registry.find? "alias" = some Builtin.shorthand ∧
      Text.lower "g" ∉ ["list", "remove", "clear"] ∧ (∀ w ∈ ["print", "a b"], w ≠ "") ∧
      "print" ≠ "g" ∧ Alias.isAlias s.session.store.entries "print" = false ∧
      succeeds (dispatch none ⟨"alias", ["g", "print", "a b"]⟩ s).1 = true) ∧
    resolve (dispatch none ⟨"alias", ["g", "print", "a b"]⟩ s).2.session.store.entries 32 none
      ⟨"g", ["x"]⟩ 0 = .ok ⟨"print", ["a", "b", "x"]⟩ ∧
    resolve (dispatch none ⟨"alias", ["g", "print", "a b"]⟩ s).2.session.store.entries 32 none
      ⟨"g", ["x"]⟩ 0 ≠ .ok ⟨"print", ["a b", "x"]⟩ := by
  intro s
  have hf : s.registry.find? "alias" = some Builtin.shorthand := by
    have hs : s.registry = Builtin.registry := rfl
    rw [hs, Builtin.find?_of_letters (by decide) (by decide)]
    rfl
  have hl : Text.lower "g" ∉ ["list", "remove", "clear"] := by
    rw [Text.lower_of_letters (by decide)]
    decide
  have ha : Alias.isAlias s.session.store.entries "print" = false := by decide
  have h : succeeds (dispatch none ⟨"alias", ["g", "print", "a b"]⟩ s).1 = true := by
    decide +kernel
  have ht : Syntax.tokenize (Text.joinWords ["print", "a b"]) = ["print", "a", "b"] := by decide
  have hroom : Room.overflow? none arrivalClimb = none := rfl
  have hr : resolve (dispatch none ⟨"alias", ["g", "print", "a b"]⟩ s).2.session.store.entries 32
      none ⟨"g", ["x"]⟩ 0 = .ok ⟨"print", ["a", "b", "x"]⟩ := by
    rw [dispatch_create hf hl h]
    exact resolve_stays (OrderedMap.get?_insert_self _) ht
      ((isAlias_insert_of_ne (by decide)).trans ha) hroom 32 0 ["x"]
  have hne : (⟨"print", ["a", "b", "x"]⟩ : Invocation) ≠ ⟨"print", ["a b", "x"]⟩ := by decide
  refine ⟨⟨hf, hl, by decide, by decide, ha, h⟩, hr, fun he => hne ?_⟩
  exact Except.ok.inj (hr.symm.trans he)

end Stack

end CommandShell
