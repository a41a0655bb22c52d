import CommandShell.Proofs.Execution.Lasting
import CommandShell.Proofs.Execution.Outcome

/-! How deep execution goes. Every request leaves the depth and the guard as they were, stays within
the bound on the way, and is turned down at the bound itself, so that a session is always at rest
between two requests. -/

namespace CommandShell

/-- Whether the bound on the depth is some number, and the depth within it. -/
structure Shell.Within (bound : Int) (s : Shell) : Prop where
  maxDepth_eq : s.maxDepth = bound
  depth_le : s.depth ≤ bound

namespace Stack

open Watched

/-- Only levels that are not full are entered. -/
theorem within_lasting (bound : Int) :
    Lasting (Shell.Within bound) fun m => m.shell.Within bound where
  session h _ := ⟨h.maxDepth_eq, h.depth_le⟩
  enter {s} h hf := by
    simp only [Shell.isFull, decide_eq_false_iff_not, Int.not_le, h.maxDepth_eq] at hf
    refine ⟨h.maxDepth_eq, ?_⟩
    simp only [Shell.enter]
    omega
  expand h _ := ⟨⟨h.maxDepth_eq, h.depth_le⟩, fun _ _ h => h⟩
  seen h _ := h

theorem depth_le_of_mem_trace {room : Room} {q : Request} {s : Shell} (h : s.depth ≤ s.maxDepth)
    {m : Moment} (hm : m ∈ q.trace room s) : m.shell.depth ≤ s.maxDepth := by
  have hw : s.Within s.maxDepth := ⟨rfl, h⟩
  exact ((within_lasting s.maxDepth).request (fun _ _ h => h) hw hm).depth_le

/-! ## The bound -/

/-- At the bound a line does nothing, in any room, the stack being used up included. -/
theorem watchLine_full {s : Shell} (hf : s.isFull = true) (room : Room) (line : String) :
    ∃ r, watchLine room line s = ((r, s), [⟨.line line, s⟩]) := by
  rw [watchLine_eq, Watcher.lineWith, noting, through_after]
  cases room.overflow? [.entry] with
  | some o => exact ⟨_, rfl⟩
  | none =>
      cases Text.isBlankText line with
      | true => exact ⟨_, rfl⟩
      | false =>
          dsimp only
          rw [if_neg Bool.false_ne_true, through_after]
          cases room.overflow? (lineClimb s.isFull) with
          | some o => exact ⟨_, rfl⟩
          | none =>
              simp only [outcome, through_nested, hf]
              exact ⟨_, rfl⟩

/-! ## Sessions -/

/-- What befalls a shell between its start and its end. Outside of requests a host may change the
session, register commands and set the bound on passes. -/
inductive Event
  | request (room : Room) (q : Request)
  | change (f : Session → Session)
  | register (c : Command)
  | allow (passes : Int)

def Event.leaves : Event → Shell → Shell
  | request room q, s => q.leaves room s
  | change f, s => { s with session := f s.session }
  | register c, s => s.register c
  | allow passes, s => { s with maxPasses := passes }

/-- The shell after some events. -/
def history (events : List Event) (s : Shell) : Shell :=
  events.foldl (fun s e => e.leaves s) s

/-- Nothing is under way in a shell. -/
structure Idle (s : Shell) : Prop where
  depth_eq : s.depth = 0
  expanding_eq : s.expanding = false

theorem Idle.kept {s s' : Shell} (h : Idle s) (hk : s.Kept s') : Idle s' :=
  ⟨hk.depth_eq.trans h.depth_eq, hk.expanding_eq.trans h.expanding_eq⟩

theorem Idle.leaves {s : Shell} (h : Idle s) (e : Event) : Idle (e.leaves s) := by
  cases e with
  | request room q => exact h.kept (q.leaves_kept room s)
  | change f => exact h.kept (.session s _)
  | register c => exact ⟨h.depth_eq, h.expanding_eq⟩
  | allow passes => exact ⟨h.depth_eq, h.expanding_eq⟩

theorem Idle.history {s : Shell} (h : Idle s) (events : List Event) :
    Idle (history events s) := by
  induction events generalizing s with
  | nil => exact h
  | cons e rest ih => exact ih (h.leaves e)

theorem idle_of_start {registry : Registry} {maxDepth : Int} {file : Option Path}
    {announcesClear : Bool} {w : Surroundings} {s : Shell}
    (h : Shell.start registry maxDepth file announcesClear w = .ok s) : Idle s := by
  rw [Shell.start] at h
  split at h
  · contradiction
  · contradiction
  · cases h
    exact ⟨rfl, rfl⟩

/-- Every request leaves the depth and the guard as they were and keeps within the bound. At the
bound a line is one error. -/
theorem nesting_restored :
    (∀ room (q : Request) s,
      (q.leaves room s).depth = s.depth ∧ (q.leaves room s).expanding = s.expanding) ∧
    (∀ room (q : Request) (s : Shell), (q.watch room s).1 = q.serve room s ∧
      (s.depth ≤ s.maxDepth → ∀ m ∈ (q.watch room s).2, m.shell.depth ≤ s.maxDepth)) ∧
    (∀ line (s : Shell), Text.isBlankText line = false → s.maxDepth ≤ s.depth →
      runInput none (some line) s = (.ok [.failure (Limit.nesting s.maxDepth).message], s) ∧
      ∀ room, (runInput room (some line) s).2 = s ∧
        (watchLine room line s).2 = [⟨.line line, s⟩]) ∧
    (∀ registry maxDepth file announcesClear w s,
      Shell.start registry maxDepth file announcesClear w = .ok s →
      ∀ events, (history events s).depth = 0 ∧ (history events s).expanding = false) := by
  refine ⟨?_, ?_, ?_, ?_⟩
  · intro room q s
    have hk := q.leaves_kept room s
    exact ⟨hk.depth_eq, hk.expanding_eq⟩
  · intro room q s
    exact ⟨congrFun (q.watch_erased room) s, fun h m hm => depth_le_of_mem_trace h hm⟩
  · intro line s hb hd
    have hf : s.isFull = true := by simpa [Shell.isFull] using hd
    refine ⟨runLine_full hf hb, fun room => ?_⟩
    obtain ⟨r, hr⟩ := watchLine_full hf room line
    have he : (watchLine room line s).1 = runInput room (some line) s :=
      congrFun (Request.watchInput_erased room (some line)) s
    rw [← he, hr]
    exact ⟨rfl, rfl⟩
  · intro registry maxDepth file announcesClear w s h events
    have hi := (idle_of_start h).history events
    exact ⟨hi.depth_eq, hi.expanding_eq⟩

/-- A command that runs itself goes no deeper than it may, and is turned down at the bound. -/
theorem nesting_restored_bare :
    let again := Registry.empty.register (Behaviour.command (.line "again") "again" [])
    let s := Shell.bare again 3
    let full := Shell.bare again 0
    (s.depth ≤ s.maxDepth ∧
      ∀ m ∈ ((Request.line (some "again")).watch none s).2, m.shell.depth ≤ s.maxDepth) ∧
    (Text.isBlankText "again" = false ∧ full.maxDepth ≤ full.depth ∧
      runInput none (some "again") full = (.ok [.failure (Limit.nesting 0).message], full)) ∧
    (Shell.start again 3 none false .empty = .ok s ∧
      (history [.request none (.line (some "again")), .allow 0] s).depth = 0) := by
  intro again s full
  have hs : s.depth ≤ s.maxDepth := by decide
  have hb : Text.isBlankText "again" = false := by decide
  have hd : full.maxDepth ≤ full.depth := by decide
  have hv : Shell.start again 3 none false .empty = .ok s := Shell.start_empty again 3
  obtain ⟨-, hw, hf, hh⟩ := nesting_restored
  exact ⟨⟨hs, (hw none _ s).2 hs⟩, ⟨hb, hd, (hf "again" full hb hd).1⟩,
    ⟨hv, (hh again 3 none false .empty s hv _).1⟩⟩

end Stack

end CommandShell
