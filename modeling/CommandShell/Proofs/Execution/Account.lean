import CommandShell.Proofs.Execution.Course

/-! What the moments of a run account for. A relation between the sessions before and after holds
along a whole run if each call, with what its command does by itself, keeps to it. -/

namespace CommandShell.Stack

/-- All that is set about while requests are served one after the other, and the shell after
them. -/
def served : List (Room × Request) → Shell → List Moment × Shell
  | [], s => ([], s)
  | (room, q) :: rest, s =>
      let (ms, s') := served rest (q.leaves room s)
      (q.trace room s ++ ms, s')

theorem served_kept (requests : List (Room × Request)) (s : Shell) :
    s.Kept (served requests s).2 := by
  induction requests generalizing s with
  | nil => exact .refl s
  | cons first rest ih => exact (first.2.leaves_kept first.1 s).trans (ih _)

/-- A relation that the moments of a run account for, among the commands of a registry. The moment
of a call may account for whatever follows, or only for what the command does by itself. -/
structure Account (r : Registry) (R : List Moment → Session → Session → Prop) : Prop where
  still (x : Session) : R [] x x
  next {ms ms' x y z} (h : R ms x y) (h' : R ms' y z) : R (ms ++ ms') x z
  seen {a : Activity} (s : Shell) (ha : a.isCall = false) : R [⟨a, s⟩] s.session s.session
  unknown {i : Invocation} {s : Shell} (hr : s.registry = r) (hf : r.find? i.name = none) :
    R [⟨.call i, s⟩] s.session s.session
  called {i : Invocation} {c : Command} {s : Shell} (hr : s.registry = r)
    (hf : r.find? i.name = some c) :
    (∀ ms y, R (⟨.call i, s⟩ :: ms) s.session y) ∨
      R [⟨.call i, s⟩] s.session
          (if c.card.name = clearName then s.announceClear else s).session ∧
        c.Does (R []) r.directory i.args

/-- Runs among the commands of a registry whose moments account for what they leave. -/
def Accounting (r : Registry) (R : List Moment → Session → Session → Prop) : Along :=
  fun s ms s' => s.Kept s' ∧ (s.registry = r → R ms s.session s'.session)

section Account

variable {r : Registry} {R : List Moment → Session → Session → Prop} (w : Account r R)
include w

theorem Account.composes : Composes (Accounting r R) where
  still s := ⟨.refl s, fun _ => w.still s.session⟩
  next h h' := ⟨h.1.trans h'.1, fun hs => w.next (h.2 hs) (h'.2 (h.1.registry_eq.trans hs))⟩
  nested _ h := ⟨h.1.leave, h.2⟩

theorem Account.course : Course (Accounting r R) (Accounting r R) where
  outside := w.composes
  inside := w.composes
  weaken h := h
  guarded hx h := ⟨h.1.unguard hx, h.2⟩
  seen s ha _ := ⟨.refl s, fun _ => w.seen s ha⟩
  substitution content s := ⟨.refl s, fun _ => w.seen s rfl⟩
  unknown {i s} hf := ⟨.refl s, fun hs => w.unknown hs (hs ▸ hf)⟩
  called {i c s} hf := by
    by_cases hs : s.registry = r
    · rcases w.called hs (hs ▸ hf) with hany | ⟨ha, hd⟩
      · exact .inl fun ms s' hk => ⟨hk, fun _ => hany ms s'.session⟩
      · refine .inr ⟨⟨announced_kept c s, fun _ => ha⟩, ?_⟩
        rw [hs]
        refine hd.mono fun x y h s hx => ⟨.session s y, fun _ => ?_⟩
        rwa [hx]
    · exact .inl fun ms s' hk => ⟨hk, fun h => absurd h hs⟩

/-- The moments of a request account for the session that it leaves. -/
theorem Account.request (room : Room) (q : Request) (s : Shell) (hs : s.registry = r) :
    R (q.trace room s) s.session (q.leaves room s).session := by
  have h := (w.course.request room q s).2 hs
  rwa [q.watch_leaves] at h

theorem Account.served (requests : List (Room × Request)) (s : Shell) (hs : s.registry = r) :
    R (Stack.served requests s).1 s.session (Stack.served requests s).2.session := by
  induction requests generalizing s with
  | nil => exact w.still _
  | cons first rest ih =>
      obtain ⟨room, q⟩ := first
      exact w.next (w.request room q s hs) (ih _ ((q.leaves_kept room s).registry_eq.trans hs))

end Account

end CommandShell.Stack
