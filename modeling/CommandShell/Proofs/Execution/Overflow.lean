import CommandShell.Proofs.Execution.Calm
import CommandShell.Proofs.Execution.Knot

/-!
Stacks that are used up. Every hop from alias to alias takes a level of the stack, so that on a
bounded one a cycle of aliases overflows it where the limit on hops lies beyond its height; and what
overflows while a line is read is raised from the line.
-/

namespace CommandShell

namespace Stack

open Alias (Entries Endless)

/-- Whether what comes out is that the stack is used up. -/
def Overflows {α : Type} (r : Except Fault α) : Prop :=
  ∃ o, r = .error (.overflow o)

section Action

variable {α : Type} {act : Action α} {s : Shell}

theorem Overflows.after (h : Overflows (act s).1) (c : Climb) (room : Room) :
    Overflows (after c room act s).1 := by
  rw [Stack.after]
  cases room.overflow? c with
  | some o => exact ⟨o, rfl⟩
  | none => exact h

theorem Overflows.nested (hf : s.isFull = false) (h : Overflows (act s.enter).1) :
    Overflows (nested act s).1 := by
  rw [Stack.nested, if_neg (by simp [hf])]
  exact h

theorem Overflows.rescue {catches : Fault → Bool} (hc : ∀ o, catches (.overflow o) = false)
    (recover : String → α) (h : Overflows (act s).1) :
    Overflows (rescue catches recover act s).1 := by
  obtain ⟨o, ho⟩ := h
  rw [Stack.rescue]
  cases ha : act s with
  | mk r s' =>
      rw [ha] at ho
      cases ho
      exact ⟨o, recovered_of_not (hc o) recover⟩

end Action

section Line

open Syntax.Quotation (Calm)

variable {run : Runner} {levels : Nat} {text name : String} {args : List String} {s : Shell}

/-- Reading words that begin with a name from which hops lead on for ever. -/
theorem read_overflows (hw : Syntax.tokenize (s.session.expandVariables text) = name :: args)
    (h : Endless s.session.store.entries name) (hm : (levels : Int) < s.maxDepth) :
    Overflows (read (some levels) text s) := by
  rw [read]
  cases Room.overflow? (some levels) (wordsClimb text) with
  | some o => exact ⟨o, rfl⟩
  | none =>
      have hr : Overflows (resolve s.session.store.entries s.maxDepth (some (levels - 1))
          ⟨name, args⟩ 0) := resolve_overflows h (by omega)
      obtain ⟨o, ho⟩ := hr
      refine ⟨o, ?_⟩
      simp only [hw, Room.above, Option.map_some, ho]
      rfl

theorem parseWith_overflows (hc : Calm text.toList) (hb : Text.isBlankText text = false)
    (hw : Syntax.tokenize text = name :: args) (h : Endless s.session.store.entries name)
    (hm : (levels : Int) < s.maxDepth) : Overflows (parseWith run (some levels) text s).1 := by
  have hx : Syntax.tokenize (s.session.expandVariables text) = name :: args := by
    rwa [expandVariables_calm hc]
  rw [parseWith_calm hc hb]
  exact Overflows.after (read_overflows hx h hm) _ _

theorem runStatement_overflows (h : Overflows (parseWith run (some levels) text s).1) :
    Overflows (runStatement run (some levels) text s).1 := by
  obtain ⟨o, ho⟩ := h
  rw [runStatement]
  cases hp : parseWith run (some levels) text s with
  | mk r s' =>
      rw [hp] at ho
      cases ho
      exact ⟨o, rfl⟩

theorem runStatements_overflows {rest : List String}
    (h : Overflows (runStatement run (some levels) text s).1) :
    Overflows (runStatements run (some levels) (text :: rest) s).1 := by
  obtain ⟨o, ho⟩ := h
  rw [runStatements]
  cases hp : runStatement run (some levels) text s with
  | mk r s' =>
      rw [hp] at ho
      cases ho
      exact ⟨o, rfl⟩

/-- On a bounded stack, a line overflows it if it calls a name from which hops lead on for ever and
the limit on them lies beyond the stack. -/
theorem execute_overflows (hf : s.isFull = false) (hs : Syntax.splitStatements text = [text])
    (hc : Calm text.toList) (hb : Text.isBlankText text = false)
    (hw : Syntax.tokenize text = name :: args) (h : Endless s.session.store.entries name)
    (hm : (levels : Int) < s.maxDepth) : Overflows (execute (some levels) (some text) s).1 := by
  have hl : ∀ levels' ≤ levels, Overflows (runLine (some levels') text s).1 := by
    intro levels' hle
    rw [runLine_eq, runLineWith]
    refine Overflows.after ?_ _ _
    simp only [hb, Bool.false_eq_true, ↓reduceIte, hs]
    refine Overflows.after (Overflows.rescue (fun _ => rfl) _ (Overflows.nested hf ?_)) _ _
    refine runStatements_overflows (runStatement_overflows ?_)
    exact parseWith_overflows hc hb hw h (by simp only [Shell.enter]; omega)
  refine Overflows.after ?_ _ _
  obtain ⟨o, ho⟩ := hl (levels - 1) (Nat.sub_le _ _)
  refine ⟨o, ?_⟩
  simp only [runInput, Room.above, Option.map_some, ho]
  rfl

end Line

end Stack

end CommandShell
