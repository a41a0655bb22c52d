import CommandShell.Proofs.Execution.Request

/-! What holds along every run. A relation between the shell before a run, its moments and the shell
after it holds of all runs if it holds of the steps that they are made of, and of one run after
another. -/

namespace CommandShell

/-! ## Commands by themselves -/

section Does

variable {W W' : Session → Session → Prop}

/-- Whether every step of a procedure keeps to a relation between sessions, whatever the lines in it
come to. -/
def Procedure.Does (W : Session → Session → Prop) : Procedure → Prop
  | .finish act => ∀ x, W x (act x).2
  | .inspect next => ∀ x, (next x).Does W
  | .update change next => (∀ x, W x (change x)) ∧ next.Does W
  | .line _ next => ∀ rs, (next rs).Does W

/-- Whether a command keeps to a relation with some arguments, also where it overruns its room. -/
structure Command.Does (W : Session → Session → Prop) (d : Directory) (args : List String)
    (c : Command) : Prop where
  handler : (c.handler d args).Does W
  strain {levels x o y} (h : c.strain d levels args x = some (o, y)) : W x y

theorem Procedure.Does.mono {p : Procedure} (h : p.Does W) (hw : ∀ x y, W x y → W' x y) :
    p.Does W' := by
  induction p with
  | finish act => exact fun x => hw _ _ (h x)
  | inspect next ih => exact fun x => ih x (h x)
  | update change next ih => exact ⟨fun x => hw _ _ (h.1 x), ih h.2⟩
  | line text next ih => exact fun rs => ih rs (h rs)

theorem Procedure.Does.of_forall (h : ∀ x y, W x y) (p : Procedure) : p.Does W := by
  induction p with
  | finish act => exact fun x => h _ _
  | inspect next ih => exact fun x => ih x
  | update change next ih => exact ⟨fun x => h _ _, ih⟩
  | line text next ih => exact fun rs => ih rs

theorem Command.Does.of_forall (h : ∀ x y, W x y) (c : Command) (d : Directory)
    (args : List String) : c.Does W d args :=
  ⟨.of_forall h _, fun _ => h _ _⟩

theorem Command.Does.mono {c : Command} {d : Directory} {args : List String} (h : c.Does W d args)
    (hw : ∀ x y, W x y → W' x y) : c.Does W' d args :=
  ⟨h.handler.mono hw, fun hs => hw _ _ (h.strain hs)⟩

end Does

namespace Stack

def Activity.isCall : Activity → Bool
  | call _ => true
  | _ => false

def Activity.isSubstitution : Activity → Bool
  | substitution _ => true
  | _ => false

/-! ## Relations along runs -/

/-- A relation between a shell, the moments of a run, and the shell after it. -/
abbrev Along := Shell → List Moment → Shell → Prop

variable {T T' : Along}

/-- Whether a change of the session alone keeps to a relation. -/
def Alters (T : Along) (x y : Session) : Prop :=
  ∀ s : Shell, s.session = x → T s [] { s with session := y }

/-- A relation that holds of doing nothing, of one run after another, and of a level that is entered
and left. -/
structure Composes (T : Along) : Prop where
  still (s : Shell) : T s [] s
  next {s ms s' ms' s''} (h : T s ms s') (h' : T s' ms' s'') : T s (ms ++ ms') s''
  nested {s ms s'} (hf : s.isFull = false) (h : T s.enter ms s') : T s ms s'.leave

/-- Two relations that go along with runs, the second one while substitutions are expanded. A call
either keeps to the first whatever follows, or what its command does by itself does. -/
structure Course (T T' : Along) : Prop where
  outside : Composes T
  inside : Composes T'
  weaken {s ms s'} (h : T s ms s') : T' s ms s'
  guarded {s ms s'} (hx : s.expanding = false) (h : T' { s with expanding := true } ms s') :
    T s ms { s' with expanding := false }
  seen {a : Activity} (s : Shell) (hc : a.isCall = false) (hs : a.isSubstitution = false) :
    T s [⟨a, s⟩] s
  substitution (content : String) (s : Shell) : T' s [⟨.substitution content, s⟩] s
  unknown {i : Invocation} {s : Shell} (hf : s.registry.find? i.name = none) :
    T s [⟨.call i, s⟩] s
  called {i : Invocation} {c : Command} {s : Shell} (hf : s.registry.find? i.name = some c) :
    (∀ ms s', s.Kept s' → T s (⟨.call i, s⟩ :: ms) s') ∨
      T s [⟨.call i, s⟩] (if c.card.name = clearName then s.announceClear else s) ∧
        c.Does (Alters T) s.registry.directory i.args

namespace Watched

variable {α β : Type} {w : Watched α} {next : Except Fault α → Watched β} {s : Shell}

/-- Whether a run keeps to a relation. -/
def Keeps (T : Along) (w : Watched α) : Prop :=
  ∀ s, T s (w s).2 (w s).1.2

variable (h : Composes T)
include h

theorem keeps_still {act : Action α} (ha : ∀ s, (act s).2 = s) : Keeps T (still act) := by
  intro s
  rw [still, ha]
  exact h.still s

theorem keeps_noting {a : Activity} (ha : ∀ s, T s [⟨a, s⟩] s) (hw : Keeps T w) :
    Keeps T (noting a w) :=
  fun s => h.next (ha s) (hw s)

theorem keeps_andThen (hw : Keeps T w) (hn : ∀ r, Keeps T (next r)) : Keeps T (w.andThen next) :=
  fun s => h.next (hw s) (hn _ _)

theorem keeps_proceed {next : α → Watched β} (hw : Keeps T w) (hn : ∀ a, Keeps T (next a)) :
    Keeps T (w.proceed next) := by
  refine keeps_andThen h hw fun r => ?_
  cases r with
  | error f => exact keeps_still h fun _ => rfl
  | ok a => exact hn a

omit h in
theorem keeps_outcome (change : Except Fault α → Except Fault β) (hw : Keeps T w) :
    Keeps T (outcome change w) :=
  hw

theorem keeps_after (hw : Keeps T w) (c : Climb) (room : Room) :
    Keeps T (through (after c room) w) := by
  intro s
  rw [through_after]
  split
  · exact h.still s
  · exact hw s

theorem keeps_nested (hw : Keeps T w) : Keeps T (through nested w) := by
  intro s
  rw [through_nested]
  split
  · exact h.still s
  · rename_i hf
    exact h.nested (Bool.eq_false_iff.mpr hf) (hw s.enter)

end Watched

open Watched

section Course

variable (h : Course T T')
include h

/-! ## Commands -/

section Watcher

variable {w : Watcher} (hw : ∀ room line, Keeps T (w room line))
include hw

theorem Course.procedure {p : Procedure} (hp : p.Does (Alters T)) (room : Room) :
    Keeps T (w.procedure room p) := by
  have hwork : ∀ s, T s [⟨.work, s⟩] s := fun s => h.seen s rfl rfl
  induction p with
  | finish act => exact keeps_noting h.outside hwork fun s => hp s.session s rfl
  | inspect next ih => exact keeps_noting h.outside hwork fun s => ih s.session (hp s.session) s
  | update change next ih =>
      exact keeps_noting h.outside hwork fun s =>
        h.outside.next (hp.1 s.session s rfl) (ih hp.2 { s with session := change s.session })
  | line text next ih =>
      exact keeps_noting h.outside hwork
        (keeps_proceed h.outside (hw room text) fun rs => ih rs (hp rs))

theorem Course.perform {c : Command} {args : List String} {s : Shell}
    (hd : c.Does (Alters T) s.registry.directory args) (room : Room) :
    T s (w.perform room c args s).2 (w.perform room c args s).1.2 := by
  rw [Watcher.perform]
  cases ho : room.bind fun levels => c.strain s.registry.directory levels args s.session with
  | some overrun =>
      obtain ⟨levels, -, hl⟩ := Option.bind_eq_some_iff.mp ho
      exact hd.strain hl s rfl
  | none =>
      refine keeps_proceed h.outside (h.procedure hw hd.handler room) (fun output => ?_) s
      exact keeps_after h.outside (keeps_still h.outside fun _ => rfl) _ _

theorem Course.call (hr : ∀ room line, Framed (w.runner room line)) (room : Room)
    (i : Invocation) : Keeps T (w.call room i) := by
  intro s
  have hk : s.Kept (w.call room i s).1.2 := by
    have he : (w.call room i s).1 = dispatchWith w.runner room i s :=
      congrFun (w.call_erased room i) s
    rw [he]
    exact dispatchWith_kept hr room i s
  revert hk
  rw [Watcher.call, noting]
  cases hf : s.registry.find? i.name with
  | none => exact fun _ => h.unknown hf
  | some c =>
      intro hk
      rcases h.called hf with hany | ⟨ha, hd⟩
      · exact hany _ _ hk
      · refine h.outside.next ha (h.perform hw ?_ _)
        rwa [(announced_kept c s).registry_eq]

/-! ## Substitutions -/

variable (hr : ∀ room line, Framed (w.runner room line))
include hr

/-- What follows the moment of a substitution keeps to the first relation. -/
theorem Course.substituted (room : Room) (content : String) :
    ∃ inside, w.evaluate room content = noting (.substitution content) inside ∧ Keeps T inside := by
  have hread : ∀ s, (parsePlain (room.above 1) content s).2 = s := by
    intro s
    rw [parsePlain, after]
    split <;> rfl
  refine ⟨_, rfl, keeps_after h.outside (keeps_outcome _
    (keeps_proceed h.outside (keeps_still h.outside hread) fun call => ?_)) _ _⟩
  cases call with
  | none => exact keeps_still h.outside fun _ => rfl
  | some i =>
      have hc := h.call hw hr (room.above 1) i
      exact fun s => keeps_after h.outside (keeps_nested h.outside (keeps_outcome _ hc)) _ _ s

theorem Course.evaluate (room : Room) (content : String) : Keeps T' (w.evaluate room content) := by
  obtain ⟨inside, he, hk⟩ := h.substituted hw hr room content
  rw [he]
  exact keeps_noting h.inside (h.substitution content) fun s => h.weaken (hk s)

theorem Course.passes (room : Room) (exceeded : Fault) (count : Nat) (text : List Char) :
    Keeps T' (w.passes room exceeded count text) := by
  induction count generalizing text with
  | zero =>
      cases hs : Syntax.Substitution.innermost? text with
      | none => rw [Watcher.passes_of_none hs]; exact keeps_still h.inside fun _ => rfl
      | some span => rw [Watcher.passes_zero hs]; exact keeps_still h.inside fun _ => rfl
  | succ count ih =>
      cases hs : Syntax.Substitution.innermost? text with
      | none => rw [Watcher.passes_of_none hs]; exact keeps_still h.inside fun _ => rfl
      | some span =>
          rw [Watcher.passes_succ hs]
          exact keeps_proceed h.inside (h.evaluate hw hr room _) fun output => ih _

theorem Course.expansion (room : Room) (text : String) : Keeps T' (w.expansion room text) := by
  rw [Watcher.expansion_eq]
  refine keeps_after h.inside (fun s => ?_) _ _
  exact h.passes hw hr _ _ _ _ s

theorem Course.parse (room : Room) (raw : String) : Keeps T (w.parse room raw) := by
  rw [Watcher.parse]
  refine keeps_after h.outside (fun s => ?_) _ _
  split
  · exact h.outside.still s
  · split
    · exact h.outside.still s
    · rename_i hx
      have hg : T s (through Stack.guarded (w.expansion (room.above 1) raw) s).2
          (through Stack.guarded (w.expansion (room.above 1) raw) s).1.2 :=
        h.guarded (Bool.eq_false_iff.mpr hx) (h.expansion hw hr _ raw _)
      rw [proceed, andThen]
      dsimp only
      generalize through Stack.guarded (w.expansion (room.above 1) raw) s = outcome at hg ⊢
      rcases outcome with ⟨⟨f | text, s'⟩, ms⟩
      · exact h.outside.next hg (h.outside.still s')
      · exact h.outside.next hg (h.outside.still s')

/-! ## Lines -/

theorem Course.statement (room : Room) (text : String) : Keeps T (w.statement room text) := by
  refine keeps_noting h.outside (fun s => h.seen s rfl rfl)
    (keeps_andThen h.outside (h.parse hw hr room text) fun r => ?_)
  rcases r with f | _ | i
  · exact keeps_still h.outside fun _ => rfl
  · exact keeps_still h.outside fun _ => rfl
  · exact keeps_outcome _ (h.call hw hr room i)

theorem Course.statements (room : Room) (texts : List String) :
    Keeps T (w.statements room texts) := by
  induction texts with
  | nil => exact keeps_still h.outside fun _ => rfl
  | cons text rest ih =>
      exact keeps_proceed h.outside (h.statement hw hr room text) fun r => keeps_outcome _ ih

theorem Course.lineWith (room : Room) (line : String) :
    Keeps T (Watcher.lineWith w room line) := by
  rw [Watcher.lineWith]
  refine keeps_noting h.outside (fun s => h.seen s rfl rfl)
    (keeps_after h.outside (fun s => ?_) _ _)
  split
  · exact h.outside.still s
  · exact keeps_after h.outside (keeps_outcome _
      (keeps_nested h.outside (h.statements hw hr _ _))) _ _ s

end Watcher

theorem Course.lineWithin (count : Nat) (room : Room) (line : String) :
    Keeps T (Watcher.lineWithin count room line) := by
  induction count generalizing room line with
  | zero =>
      refine h.lineWith (fun _ _ => keeps_still h.outside fun _ => rfl) (fun _ _ => ?_) room line
      exact fun s => .refl s
  | succ count ih => exact h.lineWith ih (Watcher.lineWithin_framed count) room line

theorem Course.line (room : Room) (line : String) : Keeps T (watchLine room line) :=
  fun s => h.lineWithin s.depthLeft room line s

/-! ## Requests -/

omit h in
theorem watchLine_framed (room : Room) (line : String) : Framed (watchLine.runner room line) := by
  rw [watchLine_erased]
  exact runLine_framed room line

theorem Course.input (room : Room) (l : Option String) : Keeps T (Request.watchInput room l) := by
  cases l with
  | none =>
      refine keeps_still h.outside fun s => ?_
      rw [runInput, after]
      split <;> rfl
  | some text => exact h.line room text

/-- What holds along runs holds along every request. -/
theorem Course.request (room : Room) (q : Request) : Keeps T' (q.watch room) := by
  have hw : ∀ {α : Type} {w : Watched α}, Keeps T w → Keeps T' w := fun hk s => h.weaken (hk s)
  cases q with
  | line l => exact hw (h.input room l)
  | execute l => exact hw (keeps_after h.outside (keeps_outcome _ (h.input _ l)) _ _)
  | parse raw => exact hw (keeps_after h.outside (h.parse h.line watchLine_framed _ _) _ _)
  | expand text => exact h.expansion h.line watchLine_framed room _
  | dispatch i => exact hw (h.call h.line watchLine_framed room i)

end Course

end Stack

end CommandShell
