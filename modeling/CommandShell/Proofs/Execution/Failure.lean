import CommandShell.Proofs.Execution.Account
import CommandShell.Proofs.Alias.Words

/-! What can fail, and where. Reading a statement fails at a bound on nesting, aliases or passes;
whoever reads makes an error of it there and then. What is raised any further is a stack that is used
up, or comes of a text that there is not: that of an alias, or that of a failure. -/

namespace CommandShell

namespace Fault

/-- What is raised in place of a text that cannot be made, that of an alias or that of a failure. -/
inductive Wordless : Fault → Prop
  | stored : Wordless (.json .unwritable)
  | refusal (message : String) : Wordless (.raised .refusal message)
  | failure (label message : String) : Wordless (.raised (.unexpected label) message)

variable {f f' : Fault}

theorem Wordless.not_console (h : f.Wordless) : f.isConsole = false := by
  cases h <;> rfl

theorem Wordless.not_limit (h : f.Wordless) : f.isLimit = false := by
  cases h <;> rfl

theorem Wordless.message_ok (h : f.Wordless) : f.message ≠ .error f' := by
  cases h <;> simp [message]

theorem Wordless.shown_ok (h : f.Wordless) : ∃ text, f.shown = .ok text := by
  cases h <;> exact ⟨_, rfl⟩

theorem wordless_of_message (h : f.message = .error f') : f'.Wordless := by
  cases f with
  | mute kind label message =>
      cases h
      cases label with
      | none => exact .refusal message
      | some label => exact .failure label message
  | _ => contradiction

theorem message_of_shown (h : f.shown = .error f') : f.message = .error f' := by
  rw [shown] at h
  split at h
  · exact Except.map_eq_error_iff.mp h
  · exact h

end Fault

/-- A result cannot be made only of a failure that has no text. -/
theorem Result.ofOutcome_error {o : Except Fault Output} {f' : Fault}
    (h : ofOutcome o = .error f') : ∃ f, o = .error f ∧ f.message = .error f' := by
  have hfault : ∀ f, ofFault f = .error f' → f.message = .error f' := by
    intro f h
    exact Fault.message_of_shown (Except.map_eq_error_iff.mp h)
  cases o with
  | error f => exact ⟨f, rfl, hfault f h⟩
  | ok output =>
      rw [ofOutcome] at h
      split at h
      · contradiction
      · exact absurd (hfault _ h) (by simp [Fault.message])

/-- Whether the failures of a procedure by itself raise only some faults where they have no text. -/
def Procedure.Voices (E : Fault → Prop) : Procedure → Prop
  | .finish act => ∀ x f f', (act x).1 = .error f → f.message = .error f' → E f'
  | .inspect next => ∀ x, (next x).Voices E
  | .update _ next => next.Voices E
  | .line _ next => ∀ rs, (next rs).Voices E

theorem Procedure.Voices.of_forall {E : Fault → Prop}
    (h : ∀ f f' : Fault, f.message = .error f' → E f') (p : Procedure) : p.Voices E := by
  induction p with
  | finish act => exact fun x f f' _ => h f f'
  | inspect next ih => exact fun x => ih x
  | update change next ih => exact ih
  | line text next ih => exact fun rs => ih rs

namespace Stack

open Watched
open Syntax.Substitution (innermost?)

/-! ## What is raised -/

section Action

variable {α : Type} {act : Action α} {room : Room} {f : Fault} {s : Shell}

/-- Failing for want of room on a stack that is bounded. -/
def Spills (room : Room) (f : Fault) : Prop :=
  room ≠ none ∧ ∃ o, f = .overflow o

theorem spills_of_overflow? {c : Climb} {o : Overflow} (h : room.overflow? c = some o) :
    Spills room (.overflow o) := by
  refine ⟨?_, o, rfl⟩
  rintro rfl
  rw [Room.overflow?_none] at h
  contradiction

theorem Spills.below {levels : Nat} (h : Spills (room.above levels) f) : Spills room f := by
  refine ⟨?_, h.2⟩
  rintro rfl
  exact h.1 (Room.above_none levels)

theorem not_spills_none : ¬Spills none f :=
  fun h => h.1 rfl

theorem after_none (c : Climb) (act : Action α) : after c none act = act :=
  rfl

theorem after_congr {act' : Action α} (h : act s = act' s) (c : Climb) (room : Room) :
    after c room act s = after c room act' s := by
  rw [after, after, h]

theorem after_of_room {c : Climb} (h : room.overflow? c = none) : after c room act s = act s := by
  rw [after, h]

theorem after_eq_ok {c : Climb} {a : α} (h : (after c room act s).1 = .ok a) :
    room.overflow? c = none ∧ (act s).1 = .ok a := by
  rw [after] at h
  split at h
  · contradiction
  · rename_i ho
    exact ⟨ho, h⟩

/-- A climb is gone on with above its first level. -/
theorem after_cons (o : Overflow) (c : Climb) :
    after (o :: c) room act = after [o] room (after c (room.above 1) act) := by
  funext s
  rw [after, after, Room.overflow?_cons]
  cases room.overflow? [o] with
  | some o => rfl
  | none => rfl

theorem after_error {c : Climb} (h : (after c room act s).1 = .error f) :
    Spills room f ∨ (act s).1 = .error f := by
  rw [after] at h
  split at h
  · rename_i o ho
    cases h
    exact .inl (spills_of_overflow? ho)
  · exact .inr h

/-- Nothing is caught that has another cause. -/
theorem recovered_of_not {catches : Fault → Bool} (h : catches f = false) (recover : String → α) :
    recovered catches recover (.error f) = .error f := by
  rw [recovered, h]
  rfl

/-- What is raised after a recovery was not caught, or had no text. -/
theorem recovered_error {catches : Fault → Bool} {recover : String → α} {r : Except Fault α}
    (h : recovered catches recover r = .error f) :
    ∃ f', r = .error f' ∧
      (catches f' = false ∧ f' = f ∨ catches f' = true ∧ f'.message = .error f) := by
  cases r with
  | ok a => contradiction
  | error f' =>
      refine ⟨f', rfl, ?_⟩
      rw [recovered] at h
      cases hc : catches f' with
      | false =>
          rw [hc] at h
          cases h
          exact .inl ⟨rfl, rfl⟩
      | true =>
          rw [hc, if_pos rfl] at h
          exact .inr ⟨rfl, Except.map_eq_error_iff.mp h⟩

end Action

/-! ## Sources of faults -/

/-- What may be raised: a stack that is used up, or else some faults. -/
def Raised (E : Fault → Prop) (room : Room) (f : Fault) : Prop :=
  Spills room f ∨ E f

theorem Raised.below {E : Fault → Prop} {room : Room} {f : Fault} {levels : Nat}
    (h : Raised E (room.above levels) f) : Raised E room f :=
  h.imp_left Spills.below

/-- Some faults, and that a bound was reached. -/
def Bounded (E : Fault → Prop) (f : Fault) : Prop :=
  (∃ l, f = .limit l) ∨ E f

/-- Sessions among which the commands of a registry stay, and what is raised from them where a text
cannot be made. -/
structure Sources (r : Registry) (P : Session → Prop) (E : Fault → Prop) : Prop where
  wordless {f : Fault} (h : E f) : f.Wordless
  step {x : Session} {i : Invocation} {f : Json.Fault} (h : P x)
    (hs : Alias.step x.store.entries i = .error f) : E (.json f)
  clear {x : Session} (h : P x) : P { x with clears := x.clears + 1 }
  does {i : Invocation} {c : Command} (hf : r.find? i.name = some c) :
    c.Does (fun x y => P x → P y) r.directory i.args
  voices {i : Invocation} {c : Command} (hf : r.find? i.name = some c) :
    (c.handler r.directory i.args).Voices E

/-- A shell with some commands, in some session. -/
structure Among (r : Registry) (P : Session → Prop) (s : Shell) : Prop where
  registry_eq : s.registry = r
  session : P s.session

/-- Whether an action that is watched raises nothing but some faults from such shells. -/
def Raises {α : Type} (r : Registry) (P : Session → Prop) (E : Fault → Prop) (room : Room)
    (w : Watched α) : Prop :=
  ∀ s f, Among r P s → (w s).1.1 = .error f → Raised E room f

section Sources

variable {r : Registry} {P : Session → Prop} {E : Fault → Prop} {room : Room}

/-- The steps of all runs stay among the sessions. -/
abbrev Staying (r : Registry) (P : Session → Prop) : Along :=
  Accounting r fun _ x y => P x → P y

section Way

variable {α β : Type} {w : Watched α}

theorem Among.next {s : Shell} (h : Among r P s) (hk : Watched.Keeps (Staying r P) w) :
    Among r P (w s).1.2 :=
  ⟨(hk s).1.registry_eq.trans h.registry_eq, (hk s).2 h.registry_eq h.session⟩

/-- What gives a value raises nothing. -/
theorem raises_still (a : α) : Raises r P E room (still fun s => (.ok a, s)) := by
  intro s f hs hf
  contradiction

theorem Raises.below {levels : Nat} (h : Raises r P E (room.above levels) w) :
    Raises r P E room w :=
  fun s f hs hf => (h s f hs hf).below

theorem Raises.mono {E' : Fault → Prop} (h : Raises r P E room w) (he : ∀ f, E f → E' f) :
    Raises r P E' room w :=
  fun s f hs hf => (h s f hs hf).imp_right (he f)

theorem Raises.after (h : Raises r P E room w) (c : Climb) :
    Raises r P E room (through (after c room) w) := by
  intro s f hs hf
  rw [through_after] at hf
  split at hf
  · rename_i o ho
    cases hf
    exact .inl (spills_of_overflow? ho)
  · exact h s f hs hf

theorem Raises.nested (h : Raises r P (Bounded E) room w) :
    Raises r P (Bounded E) room (through nested w) := by
  intro s f hs hf
  rw [through_nested] at hf
  split at hf
  · cases hf
    exact .inr (.inl ⟨_, rfl⟩)
  · exact h s.enter f ⟨hs.registry_eq, hs.session⟩ hf

theorem Raises.map (h : Raises r P E room w) (change : α → β) :
    Raises r P E room (outcome (·.map change) w) := by
  intro s f hs hf
  exact h s f hs (Except.map_eq_error_iff.mp hf)

/-- Where bounds are caught, nothing is left of them. -/
theorem Raised.recovered {r : Except Fault α} (h : ∀ f, r = .error f → Raised (Bounded E) room f)
    {catches : Fault → Bool} (hl : ∀ l, catches (.limit l) = true)
    (ho : ∀ o, catches (.overflow o) = false) (he : ∀ f, E f → catches f = false)
    {recover : String → α} {f : Fault} (hf : recovered catches recover r = .error f) :
    Raised E room f := by
  obtain ⟨f', rfl, hc⟩ := recovered_error hf
  rcases h f' rfl with ⟨hn, o, rfl⟩ | ⟨l, rfl⟩ | hE
  · rw [ho] at hc
    obtain ⟨-, rfl⟩ := hc.resolve_right nofun
    exact .inl ⟨hn, o, rfl⟩
  · rw [hl] at hc
    exact absurd (hc.resolve_left nofun).2 nofun
  · rw [he f' hE] at hc
    obtain ⟨-, rfl⟩ := hc.resolve_right nofun
    exact .inr hE

theorem Raises.proceed {next : α → Watched β} (h : Raises r P E room w)
    (hk : Watched.Keeps (Staying r P) w) (hn : ∀ a, Raises r P E room (next a)) :
    Raises r P E room (w.proceed next) := by
  intro s f hs hf
  have hs' := hs.next hk
  rw [Watched.proceed, Watched.andThen] at hf
  cases hv : (w s).1.1 with
  | error f' =>
      rw [hv] at hf
      cases hf
      exact h s f hs hv
  | ok a =>
      rw [hv] at hf
      exact hn a _ f hs' hf

end Way

variable (src : Sources r P E)
include src

theorem Sources.announced (c : Command) {s : Shell} (h : P s.session) :
    P (if c.card.name = clearName then s.announceClear else s).session := by
  split
  · rw [Shell.announceClear]
    split
    · exact src.clear h
    · exact h
  · exact h

theorem Sources.account : Account r fun _ x y => P x → P y where
  still _ h := h
  next h h' hx := h' (h hx)
  seen _ _ h := h
  unknown _ _ h := h
  called {_ c _} _ hf := .inr ⟨src.announced c, src.does hf⟩

/-! ## Words -/

omit src in
theorem resolve_raised {entries : Alias.Entries}
    (he : ∀ {i f}, Alias.step entries i = .error f → E (.json f)) {maxDepth : Int}
    {i : Invocation} {walked : Int} {f : Fault}
    (h : resolve entries maxDepth room i walked = .error f) : Raised (Bounded E) room f := by
  fun_induction resolve entries maxDepth room i walked with
  | case1 room i walked o ho =>
      cases h
      exact .inl (spills_of_overflow? ho)
  | case2 room i walked f' hs =>
      cases h
      exact .inr (.inr (he hs))
  | case3 =>
      cases h
      exact .inr (.inl ⟨_, rfl⟩)
  | case4 room i walked next _ _ _ ih => exact (ih h).below
  | case5 room i walked next _ _ o ho =>
      cases h
      exact .inl (spills_of_overflow? ho)
  | case6 => contradiction

/-- Reading words fails at a chain of aliases that is too long, or at an alias without a text. -/
theorem Sources.read {s : Shell} (hs : Among r P s) {text : String} {f : Fault}
    (h : read room text s = .error f) : Raised (Bounded E) room f := by
  rw [Stack.read] at h
  split at h
  · rename_i o ho
    cases h
    exact .inl (spills_of_overflow? ho)
  · split at h
    · contradiction
    · rename_i name args _
      have hr := Except.map_eq_error_iff.mp h
      exact (resolve_raised (src.step hs.session) hr).below

theorem Sources.parsePlain (room : Room) (raw : String) :
    Raises r P (Bounded E) room (still (parsePlain room raw)) := by
  intro s f hs hf
  rcases after_error hf with h | h
  · exact .inl h
  · dsimp only at h
    split at h
    · contradiction
    · exact src.read hs h

/-! ## Commands -/

section Watcher

variable {w : Watcher} (hw : ∀ room line, Keeps (Staying r P) (w room line))
  (he : ∀ room line, Raises r P E room (w room line))
include hw he

/-- A fault of a procedure that has no text is one of its own. -/
theorem Sources.procedure {p : Procedure} (hd : p.Does fun x y => P x → P y) (hv : p.Voices E)
    {s : Shell} (hs : Among r P s) {f f' : Fault}
    (hf : (w.procedure room p s).1.1 = .error f) (hm : f.message = .error f') : E f' := by
  induction p generalizing s with
  | finish act => exact hv s.session f f' hf hm
  | inspect next ih => exact ih s.session (hd s.session) (hv s.session) hs hf
  | update change next ih =>
      have hs' : Among r P { s with session := change s.session } :=
        ⟨hs.registry_eq, hd.1 s.session hs.session⟩
      exact ih hd.2 hv hs' hf
  | line text next ih =>
      have hs' := hs.next (hw room text)
      have hl := he room text s f hs
      rw [Watcher.procedure, noting, Watched.proceed, Watched.andThen] at hf
      rcases h : (w room text s).1.1 with g | rs
      · rw [h] at hf hl
        cases hf
        rcases hl rfl with ⟨-, o, rfl⟩ | hE
        · contradiction
        · exact absurd hm (src.wordless hE).message_ok
      · rw [h] at hf
        exact ih rs (hd rs) (hv rs) hs' hf

theorem Sources.perform {i : Invocation} {c : Command} (hc : r.find? i.name = some c) {s : Shell}
    (hs : Among r P s) {f f' : Fault} (hf : (w.perform room c i.args s).1.1 = .error f)
    (hm : f.message = .error f') : E f' := by
  have hoverflow : ∀ {o}, f ≠ .overflow o := by
    rintro o rfl
    contradiction
  rw [Watcher.perform, hs.registry_eq] at hf
  cases ho : room.bind fun levels => c.strain r.directory levels i.args s.session with
  | some overrun =>
      rw [ho] at hf
      cases hf
      exact absurd rfl hoverflow
  | none =>
      simp only [ho, Watched.proceed, Watched.andThen] at hf
      rcases h : (w.procedure room (c.handler r.directory i.args) s).1.1 with g | output
      · rw [h] at hf
        cases hf
        exact src.procedure hw he (src.does hc).handler (src.voices hc) hs h hm
      · rw [h] at hf
        simp only [through_after] at hf
        split at hf
        · cases hf
          exact absurd rfl hoverflow
        · contradiction

/-- A call raises what its failure raises that is asked for a text, and nothing else. -/
theorem Sources.call (room : Room) (i : Invocation) : Raises r P E room (w.call room i) := by
  intro s f hs hf
  rw [Watcher.call, noting] at hf
  cases hc : s.registry.find? i.name with
  | none =>
      rw [hc] at hf
      contradiction
  | some c =>
      rw [hc] at hf
      obtain ⟨g, hg, hm⟩ := Result.ofOutcome_error hf
      have hr : r.find? i.name = some c := hs.registry_eq ▸ hc
      refine .inr (src.perform hw he hr ⟨?_, src.announced c hs.session⟩ hg hm)
      exact (announced_kept c s).registry_eq.trans hs.registry_eq

/-! ## Substitutions -/

/-- Whatever a substitution fails with becomes a text, if it has one. -/
theorem Sources.evaluate (room : Room) (content : String) :
    Raises r P E room (w.evaluate room content) := by
  have hkeeps : Keeps (Staying r P) (still (Stack.parsePlain (room.above 1) content)) := by
    refine keeps_still src.account.composes fun s => ?_
    rw [Stack.parsePlain, after]
    split <;> rfl
  refine Raises.after (fun s f hs hf => ?_) _
  refine Raised.recovered (fun f => ?_) (fun _ => rfl) (fun _ => rfl)
    (fun f h => (src.wordless h).not_console) hf
  refine Raises.proceed (src.parsePlain _ content).below hkeeps (fun call => ?_) s f hs
  cases call with
  | none => exact raises_still _
  | some i =>
      have hc : Raises r P (Bounded E) room (w.call (room.above 1) i) :=
        (src.call hw he _ i).below.mono fun f => .inr
      exact fun s => ((hc.map substituted).nested.after _) s

variable (hr : ∀ room line, Framed (w.runner room line))
include hr

theorem Sources.passes {room : Room} {levels : Nat} {exceeded : Fault}
    (hx : Raised (Bounded E) room exceeded) (count : Nat) (text : List Char) :
    Raises r P (Bounded E) room (w.passes (room.above levels) exceeded count text) := by
  induction count generalizing text with
  | zero =>
      cases hn : innermost? text with
      | none =>
          rw [Watcher.passes_of_none hn]
          exact raises_still _
      | some span =>
          rw [Watcher.passes_zero hn]
          rintro s f - ⟨⟩
          exact hx
  | succ count ih =>
      cases hn : innermost? text with
      | none =>
          rw [Watcher.passes_of_none hn]
          exact raises_still _
      | some span =>
          rw [Watcher.passes_succ hn]
          refine Raises.proceed ((src.evaluate hw he _ _).below.mono fun f => .inr) ?_ fun _ => ih _
          exact src.account.course.evaluate hw hr _ _

omit src hw he hr in
theorem passesExceeded_raised (room : Room) (maxPasses : Int) :
    Raised (Bounded E) room (passesExceeded room maxPasses) := by
  rw [passesExceeded]
  split
  · rename_i o ho
    exact .inl (spills_of_overflow? ho)
  · exact .inr (.inl ⟨_, rfl⟩)

theorem Sources.expansion (room : Room) (text : String) :
    Raises r P (Bounded E) room (w.expansion room text) := by
  rw [Watcher.expansion_eq]
  refine Raises.after (fun s => ?_) _
  exact ((src.passes hw he hr (passesExceeded_raised room _) _ _).map String.ofList) s

/-- Finding what a statement calls fails at a bound, or where a text cannot be made. -/
theorem Sources.parse (room : Room) (raw : String) :
    Raises r P (Bounded E) room (w.parse room raw) := by
  refine Raises.after (fun s f hs hf => ?_) _
  split at hf
  · contradiction
  · split at hf
    · exact src.read hs hf
    · have hs' : Among r P { s with expanding := true } := ⟨hs.registry_eq, hs.session⟩
      have hk := src.account.course.expansion hw hr (room.above 1) raw
      have hx := src.expansion hw he hr (room.above 1) raw _ f hs'
      rw [Watched.proceed, Watched.andThen, through_guarded] at hf
      rcases h : (w.expansion (room.above 1) raw { s with expanding := true }).1.1 with g | text
      · rw [h] at hf
        cases hf
        exact (hx h).below
      · rw [h] at hf
        obtain ⟨hreg, hses⟩ := hs'.next hk
        exact src.read ⟨hreg, hses⟩ hf

/-! ## Lines -/

/-- A statement whose parsing fails at a bound has an error for its result. -/
theorem Sources.statement (room : Room) (text : String) :
    Raises r P E room (w.statement room text) := by
  intro s f hs hf
  have hs' := hs.next (src.account.course.parse hw hr room text)
  have hp := src.parse hw he hr room text s
  rw [Watcher.statement, noting, Watched.andThen] at hf
  rcases h : (w.parse room text s).1.1 with g | _ | i
  · rw [h] at hf
    have hg : recovered Fault.isConsole (fun text => some (Result.failure text)) (.error g) =
        .error f := hf
    refine Raised.recovered (fun f' hf' => ?_) (fun _ => rfl) (fun _ => rfl)
      (fun f h => (src.wordless h).not_console) hg
    cases hf'
    exact hp g hs h
  · rw [h] at hf
    contradiction
  · rw [h] at hf
    exact (src.call hw he room i).map some _ f hs' hf

theorem Sources.statements (room : Room) (texts : List String) :
    Raises r P E room (w.statements room texts) := by
  induction texts with
  | nil => exact raises_still _
  | cons text rest ih =>
      exact Raises.proceed (src.statement hw he hr room text)
        (src.account.course.statement hw hr room text) fun r => ih.map _

/-- A line fails only with what is no bound: bounds are among its results. -/
theorem Sources.lineWith (room : Room) (line : String) :
    Raises r P E room (Watcher.lineWith w room line) := by
  rw [Watcher.lineWith]
  refine Raises.after (fun s f hs hf => ?_) _
  split at hf
  · contradiction
  · refine Raises.after (fun s f hs hf => ?_) _ s f hs hf
    refine Raised.recovered (fun f => ?_) (fun _ => rfl) (fun _ => rfl)
      (fun f h => (src.wordless h).not_limit) hf
    have hb : Raises r P (Bounded E) room
        (w.statements (room.above lineLevels) (Syntax.splitStatements line)) :=
      (src.statements hw he hr _ _).below.mono fun f => .inr
    exact hb.nested s f hs

end Watcher

theorem Sources.lineWithin (count : Nat) (room : Room) (line : String) :
    Raises r P E room (Watcher.lineWithin count room line) := by
  induction count generalizing room line with
  | zero =>
      refine src.lineWith (fun _ _ => keeps_still src.account.composes fun _ => rfl)
        (fun _ _ s f _ h => ?_) (fun _ _ => ?_) room line
      · contradiction
      · exact fun s => .refl s
  | succ count ih =>
      exact src.lineWith (src.account.course.lineWithin count) ih
        (Watcher.lineWithin_framed count) room line

theorem Sources.line (room : Room) (line : String) : Raises r P E room (watchLine room line) :=
  fun s => src.lineWithin s.depthLeft room line s

end Sources

/-! ## In any shell -/

/-- In whatever shell, what is raised from it comes of a text that cannot be made, if not of the
stack. -/
theorem wordless_sources (r : Registry) : Sources r (fun _ => True) Fault.Wordless where
  wordless h := h
  step _ h := by
    obtain ⟨-, rfl⟩ := Alias.step_eq_error.mp h
    exact .stored
  clear h := h
  does _ := .of_forall (fun _ _ h => h) _ _ _
  voices _ := .of_forall (fun _ _ => Fault.wordless_of_message) _

section Any

variable {room : Room} {f : Fault} {s : Shell}

theorem among_any (s : Shell) : Among s.registry (fun _ => True) s :=
  ⟨rfl, trivial⟩

theorem any_kept (room : Room) (line : String) :
    Keeps (Staying s.registry fun _ => True) (watchLine room line) :=
  (wordless_sources s.registry).account.course.line room line

theorem any_raises (room : Room) (line : String) :
    Raises s.registry (fun _ => True) Fault.Wordless room (watchLine room line) :=
  (wordless_sources s.registry).line room line

/-- Finding what a statement calls fails at a bound, or for want of a text. -/
theorem parseWith_error {raw : String} (h : (parseWith runLine room raw s).1 = .error f) :
    Raised (Bounded Fault.Wordless) room f := by
  refine (wordless_sources s.registry).parse any_kept any_raises watchLine_framed room raw s f
    (among_any s) ?_
  rw [watchLine_parse, h]

theorem evaluate_error {content : String}
    (h : (evaluate runLine room content s).1 = .error f) : Raised Fault.Wordless room f := by
  refine (wordless_sources s.registry).evaluate any_kept any_raises room content s f
    (among_any s) ?_
  rw [watchLine_evaluate, h]

theorem runStatements_error {statements : List String}
    (h : (runStatements runLine room statements s).1 = .error f) : Raised Fault.Wordless room f := by
  refine (wordless_sources s.registry).statements any_kept any_raises watchLine_framed room
    statements s f (among_any s) ?_
  rw [watchLine_statements, h]

/-- Nothing is raised from a line but where the stack is used up or a text cannot be made. -/
theorem runLine_error {line : String} (h : (runLine room line s).1 = .error f) :
    Raised Fault.Wordless room f := by
  rw [← watchLine_fst] at h
  exact any_raises room line s f (among_any s) h

end Any

end Stack

end CommandShell
