import CommandShell.Builtin.Table
import CommandShell.Proofs.Execution.Failure

/-!
The failures of the built-in commands. All of them have a text, so that nothing is raised in place of
the result that shows it. Only commands of a host may fail without one.
-/

namespace CommandShell

/-- Whether a failure has a text. -/
def Fault.HasText (f : Fault) : Prop :=
  ∃ text, f.message = .ok text

/-- Whether an outcome, if it is a failure, has a text. -/
def Voiced (o : Outcome) : Prop :=
  ∀ f, o.1 = .error f → f.HasText

section Voiced

variable {x : Session} {f : Fault}

theorem voiced_answer (o : Output) : Voiced (x.answer o) :=
  nofun

theorem voiced_fail (h : f.HasText) : Voiced (x.fail f) := by
  rintro _ ⟨⟩
  exact h

theorem voiced_object (c : Complaint) : Voiced (x.object c) :=
  voiced_fail ⟨_, rfl⟩

theorem voiced_withPath {raw : String} {act : Path → Outcome} (h : ∀ p, Voiced (act p)) :
    Voiced (x.withPath raw act) := by
  rw [Session.withPath]
  split
  · exact voiced_fail ⟨_, rfl⟩
  · exact h _

/-- Failures that have a text raise nothing when they are asked for it. -/
theorem Procedure.voices_finish {E : Fault → Prop} {act : Session → Outcome}
    (h : ∀ x, Voiced (act x)) : (finish act).Voices E := by
  intro x f f' hf hm
  obtain ⟨text, ht⟩ := h x f hf
  rw [ht] at hm
  contradiction

theorem Procedure.voices_answer {E : Fault → Prop} {o : Except Fault Output}
    (h : ∀ f, o = .error f → f.HasText) : (answer o).Voices E :=
  voices_finish fun _ => h

end Voiced

namespace Session

variable {x y : Session} {f : Fault}

theorem onStore_hasText {α : Type} {operation : Store → Disk → Except FileFault α × Store × Disk}
    (h : x.onStore operation = (.error f, y)) : f.HasText := by
  rw [onStore] at h
  split at h
  · cases h
  · cases h
    exact ⟨_, rfl⟩

theorem setVariable_hasText {name : String} {value : Option String}
    (h : x.setVariable name value = (.error f, y)) : f.HasText := by
  rw [setVariable.eq_def] at h
  split at h
  · cases h
    exact ⟨_, rfl⟩
  · split at h <;> cases h

theorem createAlias_hasText {isCommand : String → Bool} {name text : String}
    (h : x.createAlias isCommand name text = (.error f, y)) : f.HasText := by
  rw [createAlias] at h
  split at h
  · cases h
    exact ⟨_, rfl⟩
  · exact onStore_hasText h

theorem removeAll_hasText {keys : List String} (h : x.removeAll keys = (.error f, y)) :
    f.HasText := by
  induction keys generalizing x with
  | nil => cases h
  | cons k rest ih =>
      rw [removeAll] at h
      split at h
      · rename_i hr
        cases h
        exact onStore_hasText hr
      · exact ih h

theorem clearAliases_hasText (h : x.clearAliases = (.error f, y)) : f.HasText := by
  rw [clearAliases] at h
  split at h
  · cases h
    exact ⟨_, rfl⟩
  · dsimp only at h
    split at h
    · rename_i hr
      cases h
      exact removeAll_hasText hr
    · cases h

end Session

namespace Builtin

variable {x : Session}

theorem wrap_hasText (complain : String → Complaint) (f : FileFault) :
    (File.wrap complain f).HasText := by
  rw [File.wrap]
  split <;> exact ⟨_, rfl⟩

theorem wrapUnreadable_hasText (complain : String → Complaint) (f : FileFault) :
    (File.wrapUnreadable complain f).HasText := by
  rw [File.wrapUnreadable.eq_def]
  split
  · exact ⟨_, rfl⟩
  · exact wrap_hasText complain f

/-! ## Variables and the store -/

theorem var_voiced (args : List String) (x : Session) : Voiced (Var.run args x) := by
  have hset : ∀ args, Voiced (Var.set args x) := by
    intro args
    unfold Var.set
    split
    · dsimp only
      split
      · rename_i hs
        exact voiced_fail (Session.setVariable_hasText hs)
      · exact voiced_answer _
    · exact voiced_object _
  unfold Var.run
  split
  · exact voiced_answer _
  · split
    · exact hset _
    · unfold Var.get
      repeat' split
      all_goals first | exact voiced_object _ | exact voiced_answer _
    · unfold Var.list
      split <;> exact voiced_answer _
    · unfold Var.clear
      split <;> exact voiced_answer _
    · exact voiced_object _

theorem encodable_hasText {text : String} {f : Fault} (h : Env.encodable text = .error f) :
    f.HasText := by
  rw [Env.encodable] at h
  split at h
  · cases h
    exact ⟨_, rfl⟩
  · cases h

theorem check_hasText {name value : String} {f : Fault} (h : Env.check name value = .error f) :
    f.HasText := by
  rw [Env.check] at h
  repeat' split at h
  all_goals cases h
  any_goals exact ⟨_, rfl⟩
  all_goals exact encodable_hasText ‹_›

theorem env_voiced (args : List String) (x : Session) : Voiced (Env.run args x) := by
  have hlist : Voiced (Env.list x) := by
    unfold Env.list
    split <;> exact voiced_answer _
  unfold Env.run
  split
  · exact hlist
  · split
    · exact hlist
    · unfold Env.get
      split
      · exact voiced_object _
      · split
        · exact voiced_fail (encodable_hasText ‹_›)
        · split
          · exact voiced_object _
          · exact voiced_answer _
    · unfold Env.set
      split
      · dsimp only
        split
        · exact voiced_fail (check_hasText ‹_›)
        · exact voiced_answer _
      · exact voiced_object _
    · exact voiced_object _

theorem aliases_voiced (isCommand : String → Bool) (args : List String) (x : Session) :
    Voiced (Aliases.run isCommand args x) := by
  unfold Aliases.run
  split
  · exact voiced_object _
  · split
    · unfold Aliases.list
      split
      · exact voiced_fail ⟨_, rfl⟩
      · exact voiced_answer _
      · exact voiced_answer _
    · unfold Aliases.remove
      split
      · exact voiced_object _
      · unfold Session.removeAlias
        split
        · exact voiced_fail (Session.onStore_hasText ‹_›)
        · exact voiced_object _
        · exact voiced_answer _
    · unfold Aliases.clear
      split
      · exact voiced_fail (Session.clearAliases_hasText ‹_›)
      · exact voiced_answer _
      · exact voiced_answer _
    · unfold Aliases.create
      split
      · exact voiced_object _
      · dsimp only
        split
        · exact voiced_fail (Session.createAlias_hasText ‹_›)
        · exact voiced_answer _

theorem cache_voiced (args : List String) (x : Session) : Voiced (Cache.run args x) := by
  unfold Cache.run
  split
  · exact voiced_object _
  · split
    · unfold Cache.set
      split
      · dsimp only
        split
        · exact voiced_fail (Session.onStore_hasText ‹_›)
        · exact voiced_answer _
      · exact voiced_object _
    · unfold Cache.get
      split
      · exact voiced_object _
      · split
        · exact voiced_object _
        · exact voiced_object _
        · split
          · exact voiced_fail ⟨_, rfl⟩
          · exact voiced_answer _
    · unfold Cache.remove
      split
      · exact voiced_object _
      · split
        · exact voiced_fail (Session.onStore_hasText ‹_›)
        · exact voiced_object _
        · exact voiced_answer _
    · unfold Cache.clear
      dsimp only
      split
      · exact voiced_fail (Session.onStore_hasText ‹_›)
      · exact voiced_answer _
    · unfold Cache.list
      split
      · exact voiced_fail ⟨_, rfl⟩
      · exact voiced_answer _
      · exact voiced_answer _
    · exact voiced_object _

/-! ## Files -/

theorem change_voiced (args : List String) (x : Session) : Voiced (Browse.change args x) := by
  unfold Browse.change
  split
  · exact voiced_answer _
  · refine voiced_withPath fun p => ?_
    split
    · exact voiced_fail ⟨_, rfl⟩
    · exact voiced_object _
    · exact voiced_answer _

theorem list_voiced (args : List String) (x : Session) : Voiced (Browse.list args x) := by
  have hl : ∀ p, Voiced (Browse.listAt x p) := by
    intro p
    rw [Browse.listAt]
    split
    · exact voiced_object _
    · exact voiced_answer _
    · exact voiced_answer _
  unfold Browse.list
  dsimp only
  split
  · exact hl _
  · exact voiced_withPath hl

theorem makeDirectory_voiced (args : List String) (x : Session) :
    Voiced (File.makeDirectory args x) := by
  unfold File.makeDirectory
  split
  · exact voiced_object _
  · refine voiced_withPath fun p => ?_
    split
    · exact voiced_fail ⟨_, rfl⟩
    · exact voiced_object _
    · split
      · exact voiced_fail ⟨_, rfl⟩
      · exact voiced_answer _

theorem touch_voiced (args : List String) (x : Session) : Voiced (File.touch args x) := by
  unfold File.touch
  split
  · exact voiced_object _
  · refine voiced_withPath fun p => ?_
    split
    · exact voiced_fail (wrap_hasText _ _)
    · exact voiced_answer _
    · exact voiced_answer _

theorem read_voiced (args : List String) (x : Session) : Voiced (File.read args x) := by
  unfold File.read
  split
  · exact voiced_object _
  · refine voiced_withPath fun p => ?_
    split
    · exact voiced_fail ⟨_, rfl⟩
    · exact voiced_object _
    · split
      · exact voiced_fail (wrapUnreadable_hasText _ _)
      · exact voiced_answer _

theorem write_voiced (args : List String) (x : Session) : Voiced (File.write args x) := by
  unfold File.write
  split
  · refine voiced_withPath fun p => ?_
    dsimp only
    split
    · exact voiced_fail (wrap_hasText _ _)
    · exact voiced_answer _
  · exact voiced_object _

theorem removeFiles_voiced (args : List String) (x : Session) : Voiced (File.remove args x) := by
  unfold File.remove
  split
  · exact voiced_object _
  · split
    · exact voiced_fail ⟨_, rfl⟩
    · exact voiced_answer _
    · exact voiced_answer _

theorem launch_voiced (args : List String) (x : Session) : Voiced (Launch.run args x) := by
  unfold Launch.run
  split
  · exact voiced_object _
  · refine voiced_withPath fun p => ?_
    split
    · exact voiced_fail ⟨_, rfl⟩
    · exact voiced_fail ⟨_, rfl⟩
    · exact voiced_object _
    · unfold Launch.openFile
      split
      · exact voiced_object _
      · exact voiced_answer _
    · unfold Launch.launch
      split
      · exact voiced_object _
      · exact voiced_answer _

theorem script_voices {E : Fault → Prop} (args : List String) : (Script.run args).Voices E := by
  have hread : ∀ {target x f}, Script.read target x = .error f → f.HasText := by
    intro target x f h
    rw [Script.read] at h
    repeat' split at h
    all_goals cases h
    any_goals exact ⟨_, rfl⟩
    exact wrapUnreadable_hasText _ _
  have hlines : ∀ ls next, (∀ rs, (next rs : Procedure).Voices E) →
      (Script.runLines next ls).Voices E := by
    intro ls
    induction ls with
    | nil => exact fun next h => h []
    | cons l rest ih => exact fun next h rs => ih _ fun later => h _
  unfold Script.run
  split
  · exact Procedure.voices_finish fun x => voiced_object _
  · intro x
    dsimp only
    split
    · rename_i hr
      exact Procedure.voices_finish fun x => voiced_fail (hread hr)
    · exact hlines _ _ fun rs => Procedure.voices_answer nofun

/-! ## Calculations, descriptions and questions -/

theorem calculate_hasText {expression : String} {f : Fault}
    (h : Calculate.answer expression = .error f) : f.HasText := by
  rw [Calculate.answer] at h
  repeat' split at h
  all_goals cases h
  all_goals exact ⟨_, rfl⟩

theorem help_voiced (d : Directory) (args : List String) (x : Session) :
    Voiced (Help.run d args x) := by
  unfold Help.run
  dsimp only
  split
  · split
    · exact voiced_fail ⟨_, rfl⟩
    · exact voiced_answer _
  · split
    · exact voiced_object _
    · exact voiced_answer _

theorem ask_voiced (args : List String) (x : Session) : Voiced (Ask.run args x) := by
  have hread : ∀ {f}, Ask.readConfig none x.disk = .error f → f.HasText := by
    intro f h
    rw [Ask.readConfig] at h
    repeat' split at h
    all_goals cases h
    all_goals exact ⟨_, rfl⟩
  have hconfig : ∀ {f y}, Ask.config none x = (.error f, y) → f.HasText := by
    intro f y h
    rw [Ask.config] at h
    split at h
    · cases h
    · split at h
      · rename_i hr
        cases h
        exact hread hr
      · cases h
  have hwrap : ∀ cfg f, (Ask.wrap cfg f).HasText := by
    intro cfg f
    rw [Ask.wrap.eq_def]
    split <;> exact ⟨_, rfl⟩
  unfold Ask.run
  dsimp only
  split
  · exact voiced_object _
  · split
    · exact voiced_fail (hconfig ‹_›)
    · split
      · exact voiced_fail (hwrap _ _)
      · exact voiced_answer _

/-- Every failure of a built-in command has a text. -/
theorem builtin_voices {E : Fault → Prop} (d : Directory) (args : List String) :
    ∀ c ∈ all, (c.handler d args).Voices E := by
  simp only [all, List.forall_mem_cons]
  refine ⟨?print, ?var, ?shorthand, ?cache, ?calculate, ?clear, ?exit, ?env, ?help, ?cd, ?ls,
    ?mkdir, ?touch, ?read, ?write, ?rm, ?open_, ?script, ?ask, ?none⟩
  case print | clear | exit => exact Procedure.voices_finish fun x => voiced_answer _
  case var => exact Procedure.voices_finish (var_voiced args)
  case shorthand => exact Procedure.voices_finish (aliases_voiced _ args)
  case cache => exact Procedure.voices_finish (cache_voiced args)
  case calculate =>
    rw [calculate]
    cases args with
    | nil => exact Procedure.voices_finish fun x => voiced_object _
    | cons word words => exact Procedure.voices_answer fun f => calculate_hasText
  case env => exact Procedure.voices_finish (env_voiced args)
  case help => exact Procedure.voices_finish (help_voiced d args)
  case cd => exact Procedure.voices_finish (change_voiced args)
  case ls => exact Procedure.voices_finish (list_voiced args)
  case mkdir => exact Procedure.voices_finish (makeDirectory_voiced args)
  case touch => exact Procedure.voices_finish (touch_voiced args)
  case read => exact Procedure.voices_finish (read_voiced args)
  case write => exact Procedure.voices_finish (write_voiced args)
  case rm => exact Procedure.voices_finish (removeFiles_voiced args)
  case open_ => exact Procedure.voices_finish (launch_voiced args)
  case script => exact script_voices args
  case ask => exact Procedure.voices_finish (ask_voiced args)
  case none => exact fun c hc => absurd hc List.not_mem_nil

end Builtin

end CommandShell
