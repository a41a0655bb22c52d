import CommandShell.Proofs.Execution.Course

/-! What holds at every moment of a run. A property of shells that outlasts what execution does to a
shell on its way in holds from the first moment to the last. -/

namespace CommandShell.Stack

/-- A property of shells that lasts through a run, and what is known of its moments from it. -/
structure Lasting (P : Shell → Prop) (Q : Moment → Prop) : Prop where
  session {s : Shell} (h : P s) (session : Session) : P { s with session }
  enter {s : Shell} (h : P s) (hf : s.isFull = false) : P s.enter
  expand {s : Shell} (h : P s) (hx : s.expanding = false) :
    P { s with expanding := true } ∧ ∀ content s', P s' → Q ⟨.substitution content, s'⟩
  seen {s : Shell} {a : Activity} (h : P s) (ha : a.isSubstitution = false) : Q ⟨a, s⟩

/-- Runs from shells of some kind, all of whose moments are of some kind. -/
def Throughout (P : Shell → Prop) (Q : Moment → Prop) : Along := fun s ms s' =>
  s.Kept s' ∧ (P s → ∀ m ∈ ms, Q m)

section Lasting

variable {P : Shell → Prop} {Q : Moment → Prop} (w : Lasting P Q)

theorem Throughout.single {a : Activity} {s : Shell} (h : P s → Q ⟨a, s⟩) :
    Throughout P Q s [⟨a, s⟩] s := by
  refine ⟨.refl s, fun hp m hm => ?_⟩
  rw [List.mem_singleton.mp hm]
  exact h hp

include w

theorem Lasting.kept {s s' : Shell} (h : P s) (hk : s.Kept s') : P s' := by
  rw [hk.eq_session]
  exact w.session h _

theorem Lasting.composes : Composes (Throughout P Q) where
  still s := ⟨.refl s, fun _ _ hm => absurd hm List.not_mem_nil⟩
  next h h' := by
    refine ⟨h.1.trans h'.1, fun hp m hm => ?_⟩
    rcases List.mem_append.mp hm with hm | hm
    · exact h.2 hp m hm
    · exact h'.2 (w.kept hp h.1) m hm
  nested hf h := ⟨h.1.leave, fun hp => h.2 (w.enter hp hf)⟩

/-- Of a shell that is expanding already it must be known that evaluations are seen, too. -/
theorem Lasting.searching :
    Lasting (fun s => P s ∧ ∀ content s', P s' → Q ⟨.substitution content, s'⟩) Q where
  session h session := ⟨w.session h.1 session, h.2⟩
  enter h hf := ⟨w.enter h.1 hf, h.2⟩
  expand h hx := ⟨⟨(w.expand h.1 hx).1, h.2⟩, fun content s' hp => h.2 content s' hp.1⟩
  seen h ha := w.seen h.1 ha

theorem Lasting.course :
    Course (Throughout P Q)
      (Throughout (fun s => P s ∧ ∀ content s', P s' → Q ⟨.substitution content, s'⟩) Q) where
  outside := w.composes
  inside := w.searching.composes
  weaken h := ⟨h.1, fun hp => h.2 hp.1⟩
  guarded hx h := ⟨h.1.unguard hx, fun hp => h.2 (w.expand hp hx)⟩
  seen _ _ ha := .single fun hp => w.seen hp ha
  substitution content s := .single fun hp => hp.2 content s hp.1
  unknown _ := .single fun hp => w.seen hp rfl
  called {i c s} _ := by
    refine .inr ⟨⟨announced_kept c s, (Throughout.single fun hp => w.seen hp rfl).2⟩, ?_⟩
    refine .of_forall (fun x y s _ => ?_) _ _ _
    exact ⟨.session s y, fun _ _ hm => absurd hm List.not_mem_nil⟩

/-- What lasts through runs holds at every moment of a request. -/
theorem Lasting.request (hq : ∀ content s, P s → Q ⟨.substitution content, s⟩) {room : Room}
    {q : Request} {s : Shell} (h : P s) {m : Moment} (hm : m ∈ q.trace room s) : Q m :=
  (w.course.request room q s).2 ⟨h, hq⟩ m hm

end Lasting

end CommandShell.Stack
