import CommandShell.Command.Custom
import CommandShell.Proofs.Execution.Calm
import CommandShell.Proofs.OrderedMap
import CommandShell.Proofs.Syntax.Words
import CommandShell.Startup

/-!
Aliases as abbreviations. Whatever an alias with some arguments is read as, its text with these
arguments behind it is read as too, so that an alias does nothing that cannot be typed.
-/

namespace CommandShell

namespace Alias

variable {entries : Entries} {name t : String}

theorem isAlias_of_get? {v : Json} (h : entries.get? (key name) = some v) :
    isAlias entries name = true := by
  rw [isAlias, ← OrderedMap.isSome_get?, h]
  rfl

theorem get?_of_not_isAlias (h : isAlias entries name = false) :
    entries.get? (key name) = none := by
  rw [isAlias, ← OrderedMap.isSome_get?] at h
  exact Option.isSome_eq_false_iff.mp h |> Option.isNone_iff_eq_none.mp

theorem wordsOf_of_get? (h : entries.get? (key name) = some (.str t)) :
    wordsOf entries name = .ok (Syntax.tokenize t) := by
  simp [wordsOf, text?, h, Json.display, Except.map]

end Alias

namespace Stack

open Syntax.Quotation (Calm)

/-! ## Following fewer aliases -/

section Resolve

variable {entries : Alias.Entries} {maxDepth walked : Int} {room : Room} {i j : Invocation}

/-- A call is resolved in the same way with one step less behind it. -/
theorem resolve_earlier
    (h : resolve entries maxDepth (room.above 1) i (walked + 1) = .ok j) :
    resolve entries maxDepth room i walked = .ok j := by
  generalize hr : room.above 1 = above at h
  generalize hw : walked + 1 = later at h
  fun_induction resolve entries maxDepth above i later generalizing room walked with
  | case1 => contradiction
  | case2 => contradiction
  | case3 => contradiction
  | case4 above i later next hs hc hm ih =>
      subst hr hw
      have hf : room.overflow? (hopClimb entries i.name) = none := Room.overflow?_of_above hc
      rw [resolve]
      simp only [hf, hs]
      rw [if_neg (by omega)]
      exact ih rfl rfl h
  | case5 => contradiction
  | case6 above i later next hs hc ha =>
      subst hr
      cases h
      have hf : room.overflow? (hopClimb entries i.name) = none := Room.overflow?_of_above hc
      have hf' : room.overflow? arrivalClimb = none := Room.overflow?_of_above ha
      rw [resolve]
      simp only [hf, hs, hf']

/-- What is hopped to is resolved a level further up. -/
theorem resolve_next {next : Invocation} (hs : Alias.step entries i = .ok (next, true))
    (h : resolve entries maxDepth room i walked = .ok j) :
    resolve entries maxDepth (room.above 1) next (walked + 1) = .ok j := by
  rw [resolve] at h
  cases hr : room.overflow? (hopClimb entries i.name) with
  | some o =>
      simp only [hr] at h
      contradiction
  | none =>
      simp only [hr, hs] at h
      split at h
      · contradiction
      · exact h

/-- Looking up a name takes less room than arriving at it, unless what is stored under it has to be
displayed. -/
theorem hopClimb_fits {name : String}
    (h : ((entries.get? (Alias.key name)).map Json.displayingClimb).getD [] = [])
    (hr : room.overflow? arrivalClimb = none) : room.overflow? (hopClimb entries name) = none := by
  refine Room.overflow?_of_le hr ?_
  rw [hopClimb, Alias.readingClimb, h]
  decide

/-- What an alias is resolved to, its words are resolved to by themselves. -/
theorem resolve_words {name head t : String} {own args : List String}
    (ha : entries.get? (Alias.key name) = some (.str t)) (ht : Syntax.tokenize t = head :: own)
    (hne : head ≠ name) (h : resolve entries maxDepth room ⟨name, args⟩ walked = .ok j) :
    resolve entries maxDepth room ⟨head, own ++ args⟩ walked = .ok j := by
  have hw : Alias.wordsOf entries name = .ok (head :: own) := by rw [Alias.wordsOf_of_get? ha, ht]
  have hi : Alias.isAlias entries name = true := Alias.isAlias_of_get? ha
  cases hh : Alias.isAlias entries head with
  | true =>
      have hs : Alias.step entries ⟨name, args⟩ = .ok (⟨head, own ++ args⟩, true) :=
        Alias.step_of_hop ⟨hi, hw, hne, hh⟩ args
      exact resolve_earlier (resolve_next hs h)
  | false =>
      have hs : Alias.step entries ⟨name, args⟩ = .ok (⟨head, own ++ args⟩, false) := by
        simp [Alias.step, hi, hw, hh]
      have hs' : Alias.step entries ⟨head, own ++ args⟩ = .ok (⟨head, own ++ args⟩, false) := by
        simp [Alias.step, hh]
      rw [resolve_of_stay hs] at h
      split at h
      · contradiction
      · contradiction
      · rename_i hr
        have hd : ((entries.get? (Alias.key head)).map Json.displayingClimb).getD [] = [] := by
          rw [Alias.get?_of_not_isAlias hh]
          rfl
        rw [resolve_of_stay hs']
        simp only [hopClimb_fits hd hr, hr]
        exact h

end Resolve

/-! ## Reading -/

section Reading

variable {room : Room} {s : Shell} {text name : String} {args : List String} {i : Invocation}

theorem parse_calm (h : Calm text.toList) (hb : Text.isBlankText text = false) :
    parse room text s =
      after (.entry :: calmClimb s.expanding) room
        (fun s => (read (room.above 1) text s, s)) s := by
  rw [after_cons, parse]
  exact after_congr (parseWith_calm h hb) _ _

/-- A text in which no dollar sign means anything calls what its first word is resolved to. -/
theorem read_calm_iff (h : Calm text.toList) (hn : text ≠ "")
    (ht : Syntax.tokenize text = name :: args) :
    read room text s = .ok (some i) ↔
      room.overflow? [.entry, .entry, .call] = none ∧
        resolve s.session.store.entries s.maxDepth (room.above 1) ⟨name, args⟩ 0 = .ok i := by
  have hr : Syntax.holdsReference text = false := by
    rw [Syntax.holdsReference, h.split_eq]
    simp
  rw [read, wordsClimb, if_neg hn, hr, if_neg Bool.false_ne_true, expandVariables_calm h, ht]
  cases room.overflow? [.entry, .entry, .call] with
  | some o => simp
  | none =>
      dsimp only
      cases resolve s.session.store.entries s.maxDepth (room.above 1) ⟨name, args⟩ 0 with
      | error f => simp [Except.map]
      | ok j => simp [Except.map]

/-- A text that calls something is not blank. -/
theorem not_blank_of_parse (h : (parse room text s).1 = .ok (some i)) :
    Text.isBlankText text = false := by
  have hp := (after_eq_ok (after_eq_ok h).2).2
  cases hb : Text.isBlankText text with
  | true =>
      simp only [hb, ↓reduceIte] at hp
      cases hp
  | false => rfl

end Reading

/-! ## Typing -/

section Typing

variable {name t r : String}

theorem calm_typed (ht : '$' ∉ t.toList) (hr : '$' ∉ r.toList) : Calm (t ++ " " ++ r).toList := by
  have hd : '$' ∉ (t ++ " " ++ r).toList := by simp [ht, hr]
  rw [← List.append_nil (t ++ " " ++ r).toList]
  exact Calm.append_of_not_mem .nil hd

/-- Whatever a text that begins with an alias calls, the text with that of the alias in its place
calls as well. -/
theorem alias_typed (room : Room) (s : Shell) {name t r head : String} {own : List String}
    {i : Invocation} (hn : name ≠ "")
    (he : ∀ c ∈ name.toList, Syntax.isEscapable c = false) (hc : '$' ∉ name.toList)
    (ha : s.session.store.entries.get? (Alias.key name) = some (.str t))
    (hd : '$' ∉ t.toList) (hb : Text.isBlankText t = false)
    (ho : Syntax.Token.closes none t.toList = true) (ht : Syntax.tokenize t = head :: own)
    (hne : head ≠ name) (hr : '$' ∉ r.toList)
    (h : (parse room (name ++ " " ++ r) s).1 = .ok (some i)) :
    parse room (t ++ " " ++ r) s = (.ok (some i), s) := by
  have hcalm := calm_typed hc hr
  have hblank := not_blank_of_parse h
  have hcalm' := calm_typed hd hr
  have hblank' : Text.isBlankText (t ++ " " ++ r) = false := by
    rw [Text.isBlankText] at hb ⊢
    simp [hb]
  have hw := Syntax.tokenize_word_space hn he r
  have hw' : Syntax.tokenize (t ++ " " ++ r) = head :: (own ++ Syntax.tokenize r) := by
    rw [Syntax.tokenize_append_space ho, ht, List.cons_append]
  rw [parse_calm hcalm hblank] at h
  obtain ⟨hroom, hread⟩ := after_eq_ok h
  obtain ⟨hwords, hres⟩ := (read_calm_iff hcalm (ne_empty_of_not_blank hblank) hw).mp hread
  have hread' : read (room.above 1) (t ++ " " ++ r) s = .ok (some i) :=
    (read_calm_iff hcalm' (ne_empty_of_not_blank hblank') hw').mpr
      ⟨hwords, resolve_words ha ht hne hres⟩
  rw [parse_calm hcalm' hblank', after_of_room hroom, hread']

/-- An alias with quotes in its text that stands for another alias. -/
theorem alias_typed_chain :
    let note := Registry.empty.register (Behaviour.record.command "note" [])
    let entries : Alias.Entries :=
      (OrderedMap.empty.insert (Alias.key "h") (.str "note \"1\"")).insert (Alias.key "g")
        (.str "h 'x y'")
    let bare := Shell.bare note 3
    let s := { bare with session := { bare.session with store := ⟨entries, none⟩ } }
    ((∀ c ∈ "g".toList, Syntax.isEscapable c = false) ∧ '$' ∉ "g".toList ∧
      s.session.store.entries.get? (Alias.key "g") = some (.str "h 'x y'") ∧
      '$' ∉ "h 'x y'".toList ∧ Text.isBlankText "h 'x y'" = false ∧
      Syntax.Token.closes none "h 'x y'".toList = true ∧
      Syntax.tokenize "h 'x y'" = ["h", "x y"] ∧ '$' ∉ "z \"".toList ∧
      (parse none ("g" ++ " " ++ "z \"") s).1 = .ok (some ⟨"note", ["1", "x y", "z"]⟩)) ∧
    parse none ("h 'x y'" ++ " " ++ "z \"") s = (.ok (some ⟨"note", ["1", "x y", "z"]⟩), s) := by
  intro note entries bare s
  have he : ∀ c ∈ "g".toList, Syntax.isEscapable c = false := by simp [Syntax.isEscapable]
  have hc : '$' ∉ "g".toList := by decide
  have ha : s.session.store.entries.get? (Alias.key "g") = some (.str "h 'x y'") :=
    OrderedMap.get?_insert_self _
  have hd : '$' ∉ "h 'x y'".toList := by decide
  have hb : Text.isBlankText "h 'x y'" = false := by decide
  have ho : Syntax.Token.closes none "h 'x y'".toList = true := by decide
  have ht : Syntax.tokenize "h 'x y'" = ["h", "x y"] := by decide
  have hr : '$' ∉ "z \"".toList := by decide
  have hg : Alias.Hop entries "g" ["x y"] "h" := ⟨by decide, by decide, by decide, by decide⟩
  have hh : Alias.step entries ⟨"h", ["x y", "z"]⟩ =
      .ok (⟨"note", ["1", "x y", "z"]⟩, false) := by
    decide
  have hres : resolve entries 3 none ⟨"g", ["z"]⟩ 0 = .ok ⟨"note", ["1", "x y", "z"]⟩ := by
    rw [resolve_of_hop hg, if_neg (by decide)]
    exact resolve_of_stay hh
  have hcalm : Calm ("g" ++ " " ++ "z \"").toList := calm_typed hc hr
  have hread : read none ("g" ++ " " ++ "z \"") s = .ok (some ⟨"note", ["1", "x y", "z"]⟩) :=
    (read_calm_iff hcalm (by decide) (by decide)).mpr ⟨rfl, hres⟩
  have h : (parse none ("g" ++ " " ++ "z \"") s).1 = .ok (some ⟨"note", ["1", "x y", "z"]⟩) := by
    rw [parse_calm hcalm (by decide), after_none]
    exact hread
  exact ⟨⟨he, hc, ha, hd, hb, ho, ht, hr, h⟩,
    alias_typed none s (by decide) he hc ha hd hb ho ht (by decide) hr h⟩

end Typing

end Stack

end CommandShell
