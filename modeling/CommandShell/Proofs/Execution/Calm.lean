import CommandShell.Proofs.Alias.Walk
import CommandShell.Proofs.Syntax.Quotation

/-! Texts in which no dollar sign means anything. They are read as they stand. -/

namespace CommandShell.Stack

open Watched
open Syntax.Quotation (Calm)

section Calm

variable {run : Runner} {room : Room} {text : String} {s : Shell}

/-- A text in which no dollar sign means anything stays as it is. -/
theorem expandWith_calm (h : Calm text.toList) :
    expandWith run room text s = after (searchingClimb text) room (fun s => (.ok text, s)) s := by
  refine after_congr ?_ _ _
  rw [Syntax.expandSubstitutions, Syntax.Substitution.expand_of_none h.innermost?_eq_none]
  simp [Except.map]

theorem expandVariables_calm (h : Calm text.toList) (session : Session) :
    session.expandVariables text = text := by
  rw [Session.expandVariables, Syntax.expandReferences, h.expandChars_eq, String.ofList_toList]

/-- What is asked of the stack before such a text is read. It is searched unless substitutions are
being expanded. -/
def calmClimb (expanding : Bool) : Climb :=
  .entry :: if expanding then [] else [.entry, .entry, .comparison]

theorem ne_empty_of_not_blank (h : Text.isBlankText text = false) : text ≠ "" := by
  rintro rfl
  contradiction

/-- Whether or not substitutions are being expanded, it is read as it stands. -/
theorem parseWith_calm (h : Calm text.toList) (hb : Text.isBlankText text = false) :
    parseWith run room text s =
      after (calmClimb s.expanding) room (fun s => (read room text s, s)) s := by
  have hn := ne_empty_of_not_blank hb
  rw [calmClimb, after_cons, parseWith]
  refine after_congr ?_ _ _
  simp only [hb, Bool.false_eq_true, ↓reduceIte]
  cases hx : s.expanding with
  | true => exact (after_of_room (Room.overflow?_nil _)).symm
  | false =>
      simp only [Bool.false_eq_true, ↓reduceIte, guarded, expandWith_calm h, searchingClimb, hn,
        after]
      cases (room.above 1).overflow? [.entry, .entry, .comparison] with
      | some o =>
          dsimp only
          rw [← hx]
      | none =>
          dsimp only
          rw [← hx]

/-- Nothing is set about where such a text is read. -/
theorem watchParse_calm (w : Watcher) (h : Calm text.toList) :
    w.parse room text s = (parseWith w.runner room text s, []) := by
  have hx : ∀ room s, (w.expansion room text s).2 = [] := by
    intro room s
    rw [Watcher.expansion_eq, through_after]
    split
    · rfl
    · rw [outcome, Watcher.passes_of_none h.innermost?_eq_none]
      rfl
  refine Prod.ext (congrFun (w.parse_erased room text) s) ?_
  rw [Watcher.parse, through_after]
  split
  · rfl
  · split
    · rfl
    · split
      · rfl
      · exact (proceed_of_quiet fun text s => rfl).trans (hx _ _)

end Calm

section Words

variable {name : String} {args : List String} {s : Shell}

theorem resolve_command {entries : Alias.Entries} {maxDepth walked : Int}
    (h : Alias.isAlias entries name = false) :
    resolve entries maxDepth none ⟨name, args⟩ walked = .ok ⟨name, args⟩ := by
  have hs : Alias.step entries ⟨name, args⟩ = .ok (⟨name, args⟩, false) := by simp [Alias.step, h]
  rw [resolve_of_stay hs]
  rfl

/-- Such a text calls what its words say, if the first of them is no alias. -/
theorem parseWith_words {run : Runner} {text : String} (h : Calm text.toList)
    (hb : Text.isBlankText text = false) (ht : Syntax.tokenize text = name :: args)
    (ha : Alias.isAlias s.session.store.entries name = false) :
    parseWith run none text s = (.ok (some ⟨name, args⟩), s) := by
  rw [parseWith_calm h hb, after_none, read]
  simp only [Room.overflow?_none, expandVariables_calm h, ht, Room.above_none, resolve_command ha,
    Except.map]

end Words

end CommandShell.Stack
