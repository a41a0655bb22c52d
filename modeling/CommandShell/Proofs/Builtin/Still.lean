import CommandShell.Builtin.Table
import CommandShell.Proofs.Execution.Course

/-!
Commands that leave a session alone. Most of the built-in commands look at it only, or deal with the
disk and with the outside; whether they succeed, fail or overrun their room, the session keeps its
directory, its variables, its store and its environment.
-/

namespace CommandShell

/-- Whether two sessions differ at most in their disks, in what was cleared and called, and in their
dealings with the outside. -/
structure Session.Alike (x y : Session) : Prop where
  cwd_eq : y.cwd = x.cwd
  exitRequested_eq : y.exitRequested = x.exitRequested
  vars_eq : y.vars = x.vars
  store_eq : y.store = x.store
  environment_eq : y.environment = x.environment

/-- Whether two sessions are alike, and the screen was not cleared in between. -/
structure Session.Still (x y : Session) : Prop extends Session.Alike x y where
  clears_eq : y.clears = x.clears

namespace Session

variable {W W' : Session → Session → Prop} {x y z : Session}

theorem Alike.refl (x : Session) : Alike x x :=
  ⟨rfl, rfl, rfl, rfl, rfl⟩

theorem Alike.trans (h : Alike x y) (h' : Alike y z) : Alike x z :=
  ⟨h'.cwd_eq.trans h.cwd_eq, h'.exitRequested_eq.trans h.exitRequested_eq,
    h'.vars_eq.trans h.vars_eq, h'.store_eq.trans h.store_eq,
    h'.environment_eq.trans h.environment_eq⟩

namespace Still

theorem work (x : Session) (disk : Disk) (client : Option Chat.Config)
    (exchange : Chat.Exchange Float) : Still x { x with disk, client, exchange } :=
  ⟨⟨rfl, rfl, rfl, rfl, rfl⟩, rfl⟩

theorem refl (x : Session) : Still x x :=
  ⟨.refl x, rfl⟩

theorem trans (h : Still x y) (h' : Still y z) : Still x z :=
  ⟨h.toAlike.trans h'.toAlike, h'.clears_eq.trans h.clears_eq⟩

end Still

theorem withPath_of_forall {raw : String} {act : Path → Outcome} (hr : W x x)
    (h : ∀ p, W x (act p).2) : W x (x.withPath raw act).2 := by
  rw [withPath]
  split
  · exact hr
  · exact h _

/-! ## Overruns -/

/-- Whether what is left where room is used up is related to a session. -/
def Overran (W : Session → Session → Prop) (x : Session) (overrun : Option Overrun) : Prop :=
  ∀ o y, overrun = some (o, y) → W x y

variable {overrun overrun' : Option Overrun}

theorem Overran.none : Overran W x none :=
  fun _ _ h => nomatch h

theorem Overran.mono (h : Overran W x overrun) (hw : ∀ y, W x y → W' x y) :
    Overran W' x overrun :=
  fun o y ho => hw y (h o y ho)

theorem Overran.orElse (h : Overran W x overrun) (h' : Overran W x overrun') :
    Overran W x (overrun.orElse fun _ => overrun') := by
  intro o y ho
  rw [Option.orElse_eq_or, Option.or_eq_some_iff] at ho
  exact ho.elim (h o y) fun ho => h' o y ho.2

theorem overran_climb (hr : W x x) (c : Climb) (room : Nat) :
    Overran W x (c.overrun? room x) := by
  intro o y ho
  obtain ⟨_, -, he⟩ := Option.map_eq_some_iff.mp ho
  cases he
  exact hr

end Session

/-! ## Procedures -/

section Does

variable {W : Session → Session → Prop} {d : Directory} {args : List String} {c : Command}

/-- A command that overruns its room in some way of its own. -/
theorem Command.does_of_overrun {overrun : Nat → List String → Session → Option Overrun}
    (hh : (c.handler d args).Does W) (hs : c.strain d = overrun)
    (ho : ∀ room x, Session.Overran W x (overrun room args x)) : c.Does W d args := by
  refine ⟨hh, fun {room x o y} h => ho room x o y ?_⟩
  rw [← hs]
  exact h

/-- A command that never overruns its room. -/
theorem Command.does_of_slight (hh : (c.handler d args).Does W) (hs : c.strain = .slight) :
    c.Does W d args := by
  refine ⟨hh, fun ho => ?_⟩
  rw [hs] at ho
  contradiction

/-- A command that leaves the session as it is where it overruns its room. -/
theorem Command.does_of_climb {climb : List String → Session → Climb} (hr : ∀ x, W x x)
    (hh : (c.handler d args).Does W) (hs : c.strain = .ofClimb climb) : c.Does W d args := by
  refine ⟨hh, fun {_ x _ _} ho => ?_⟩
  rw [hs] at ho
  exact Session.overran_climb (hr x) (climb args x) _ _ _ ho

end Does

namespace Builtin

open Session (Still Overran withPath_of_forall)

/-! ## Looking -/

theorem list_still (args : List String) (x : Session) : Still x (Browse.list args x).2 := by
  have hl : ∀ p, Still x (Browse.listAt x p).2 := by
    intro p
    rw [Browse.listAt]
    split <;> exact .refl x
  rw [Browse.list]
  split
  · exact hl _
  · exact withPath_of_forall (.refl x) hl

theorem read_still (args : List String) (x : Session) : Still x (File.read args x).2 := by
  unfold File.read
  split
  · exact .refl x
  · refine withPath_of_forall (.refl x) fun p => ?_
    split
    · exact .refl x
    · exact .refl x
    · split <;> exact .refl x

theorem help_still (d : Directory) (args : List String) (x : Session) :
    Still x (Help.run d args x).2 := by
  unfold Help.run
  dsimp only
  split <;> split <;> exact .refl x

/-! ## Dealing with the disk -/

theorem makeDirectory_still (args : List String) (x : Session) :
    Still x (File.makeDirectory args x).2 := by
  unfold File.makeDirectory
  split
  · exact .refl x
  · refine withPath_of_forall (.refl x) fun p => ?_
    split
    · exact .refl x
    · exact .refl x
    · split <;> exact .work x _ _ _

theorem touch_still (args : List String) (x : Session) : Still x (File.touch args x).2 := by
  unfold File.touch
  split
  · exact .refl x
  · refine withPath_of_forall (.refl x) fun p => ?_
    split <;> exact .work x _ _ _

theorem write_still (args : List String) (x : Session) : Still x (File.write args x).2 := by
  unfold File.write
  split
  · refine withPath_of_forall (.refl x) fun p => ?_
    dsimp only
    split <;> exact .work x _ _ _
  · exact .refl x

theorem removeFiles_still (args : List String) (x : Session) :
    Still x (File.remove args x).2 := by
  unfold File.remove
  split
  · exact .refl x
  · split <;> exact .work x _ _ _

theorem removalOverrun?_still (room : Nat) (targets : List String) (x : Session) :
    Overran Still x (File.removalOverrun? room targets x) := by
  induction targets generalizing x with
  | nil => exact .none
  | cons target rest ih =>
      rw [File.removalOverrun?]
      split
      · intro o y ho
        cases ho
        exact .refl x
      · split
        · exact .none
        · split
          · exact .none
          · rename_i disk _
            exact fun o y ho => (Still.work x disk _ _).trans (ih _ o y ho)

/-! ## Dealing with the outside -/

theorem launch_still (args : List String) (x : Session) : Still x (Launch.run args x).2 := by
  unfold Launch.run
  split
  · exact .refl x
  · refine withPath_of_forall (.refl x) fun p => ?_
    split
    · exact .refl x
    · exact .refl x
    · exact .refl x
    · unfold Launch.openFile
      split
      · exact .refl x
      · exact .work x _ _ _
    · unfold Launch.launch
      split
      · exact .refl x
      · exact .work x _ _ _

theorem askConfig_still (bound : Json.Bound) (x : Session) : Still x (Ask.config bound x).2 := by
  unfold Ask.config
  split
  · exact .refl x
  · split
    · exact .refl x
    · exact .work x _ _ _

theorem ask_still (args : List String) (x : Session) : Still x (Ask.run args x).2 := by
  have hc : Still x (Ask.config none x).2 := askConfig_still none x
  unfold Ask.run
  dsimp only
  split
  · exact .refl x
  · cases h : Ask.config none x with
    | mk o y =>
        rw [h] at hc
        cases o with
        | error f => exact hc
        | ok cfg =>
            dsimp only
            split <;> exact hc.trans (.work y _ _ _)

theorem askOverrun?_still (room : Nat) (args : List String) (x : Session) :
    Overran Still x (Ask.overrun? room args x) := by
  have hconversation : ∀ y, Overran Still y (Ask.conversationOverrun? room args y) := by
    intro y o z ho
    rw [Ask.conversationOverrun?] at ho
    have hrun := ask_still args { y with exchange := { y.exchange with
      bound := Json.Bound.ofRoom (some (room - Chat.askLevels)) } }
    split at ho
    · exact nomatch ho
    · rename_i h
      rw [h] at hrun
      obtain ⟨_, -, he⟩ := Option.map_eq_some_iff.mp ho
      cases he
      exact (Still.work y _ _ _).trans (hrun.trans (.work _ _ _ _))
  unfold Ask.overrun?
  split
  · exact .none
  · split
    · exact Session.overran_climb (.refl x) _ _
    · have hc := askConfig_still (.ofRoom (some (room - Ask.configLevels))) x
      split
      · rename_i h
        rw [h] at hc
        intro o y ho
        cases ho
        exact hc
      · exact .none
      · rename_i y h
        rw [h] at hc
        have hy := (Session.overran_climb (Still.refl y) Ask.conversingClimb room).orElse
          (hconversation y)
        exact fun o z ho => hc.trans (hy o z ho)

/-! ## Changing one thing -/

/-- A session is moved to a directory that is there, or left alone. -/
theorem change_cases (args : List String) (x : Session) :
    Still x (Browse.change args x).2 ∨
      ∃ target p, x.resolve target = .ok p ∧
        Browse.change args x = { x with cwd := p }.answer .nothing := by
  rw [Browse.change.eq_def]
  split
  · exact .inl (.refl x)
  · rename_i target _
    rw [Session.withPath]
    split
    · exact .inl (.refl x)
    · rename_i p hp
      split
      · exact .inl (.refl x)
      · exact .inl (.refl x)
      · exact .inr ⟨target, p, hp, rfl⟩

/-- An environment variable is set, or the session left alone. -/
theorem env_cases (args : List String) (x : Session) :
    Still x (Env.run args x).2 ∨
      ∃ environment text, Env.run args x = { x with environment }.answer (.text text) := by
  have hlist : Still x (Env.list x).2 := by
    rw [Env.list]
    split <;> exact .refl x
  have hget : ∀ args, Still x (Env.get args x).2 := by
    intro args
    unfold Env.get
    repeat' split
    all_goals exact .refl x
  have hset : ∀ args, Still x (Env.set args x).2 ∨
      ∃ environment text, Env.set args x = { x with environment }.answer (.text text) := by
    intro args
    unfold Env.set
    split
    · dsimp only
      split
      · exact .inl (.refl x)
      · exact .inr ⟨_, _, rfl⟩
    · exact .inl (.refl x)
  unfold Env.run
  split
  · exact .inl hlist
  · split
    · exact .inl hlist
    · exact .inl (hget _)
    · exact hset _
    · exact .inl (.refl x)

/-- Variables are set or cleared, or the session left alone. -/
theorem var_cases (args : List String) (x : Session) :
    Still x (Var.run args x).2 ∨
      ∃ vars text, Var.run args x = { x with vars }.answer (.text text) := by
  have hset : ∀ args, Still x (Var.set args x).2 ∨
      ∃ vars text, Var.set args x = { x with vars }.answer (.text text) := by
    intro args
    unfold Var.set
    split
    · dsimp only
      rw [Session.setVariable]
      split
      · rename_i h
        split at h
        · cases h
          exact .inl (.refl x)
        · cases h
      · rename_i h
        split at h
        · cases h
        · cases h
          exact .inr ⟨_, _, rfl⟩
    · exact .inl (.refl x)
  have hget : ∀ args, Still x (Var.get args x).2 := by
    intro args
    unfold Var.get
    repeat' split
    all_goals exact .refl x
  have hlist : Still x (Var.list x).2 := by
    rw [Var.list]
    split <;> exact .refl x
  have hclear : ∃ vars text, Var.clear x = { x with vars }.answer (.text text) := by
    rw [Var.clear, Session.clearVariables]
    cases x.vars.size <;> exact ⟨_, _, rfl⟩
  unfold Var.run
  split
  · exact .inl (.refl x)
  · split
    · exact hset _
    · exact .inl (hget _)
    · exact .inl hlist
    · exact .inr hclear
    · exact .inl (.refl x)

/-- A script does nothing by itself. -/
theorem script_does {W : Session → Session → Prop} (hr : ∀ x, W x x) (args : List String) :
    (Script.run args).Does W := by
  have hlines : ∀ ls next, (∀ rs, (next rs : Procedure).Does W) →
      (Script.runLines next ls).Does W := by
    intro ls
    induction ls with
    | nil => exact fun next h => h []
    | cons l rest ih => exact fun next h rs => ih _ fun later => h _
  unfold Script.run
  split
  · exact fun x => hr x
  · intro x
    dsimp only
    split
    · exact fun x => hr x
    · exact hlines _ _ fun rs x => hr x

/-! ## All of them -/

/-- The commands that change more of a session than its disk and its dealings with the outside. -/
def changing : List String :=
  ["var", "alias", "cache", "exit", "env", "cd"]

/-- A command that is not among them and runs no lines leaves the session alone. -/
theorem builtin_still (d : Directory) (args : List String) :
    ∀ c ∈ all, c.card.name ∉ "script" :: changing → c.Does Still d args := by
  simp only [all, List.forall_mem_cons]
  refine ⟨?print, ?var, ?shorthand, ?cache, ?calculate, ?clear, ?exit, ?env, ?help, ?cd, ?ls,
    ?mkdir, ?touch, ?read, ?write, ?rm, ?open_, ?script, ?ask, ?none⟩
  case var | shorthand | cache | exit | env | cd | script =>
    exact fun hn => absurd (by decide) hn
  case print | clear => exact fun _ => Command.does_of_slight (fun x => .refl x) rfl
  case calculate =>
    refine fun _ => Command.does_of_climb .refl ?_ rfl
    rw [calculate]
    cases args <;> exact fun x => .refl x
  case help => exact fun _ => Command.does_of_climb .refl (help_still d args) rfl
  case ls => exact fun _ => Command.does_of_climb .refl (list_still args) rfl
  case mkdir => exact fun _ => Command.does_of_climb .refl (makeDirectory_still args) rfl
  case touch => exact fun _ => Command.does_of_climb .refl (touch_still args) rfl
  case read => exact fun _ => Command.does_of_climb .refl (read_still args) rfl
  case write => exact fun _ => Command.does_of_climb .refl (write_still args) rfl
  case open_ => exact fun _ => Command.does_of_climb .refl (launch_still args) rfl
  case rm =>
    exact fun _ => Command.does_of_overrun (removeFiles_still args) rfl fun room x =>
      removalOverrun?_still room args x
  case ask =>
    exact fun _ => Command.does_of_overrun (ask_still args) (by rw [ask]) fun room x =>
      askOverrun?_still room args x
  case none => exact fun c hc => absurd hc List.not_mem_nil

end Builtin

end CommandShell
