import CommandShell.Proofs.Execution.Outcome
import CommandShell.Proofs.Syntax.Pieces

/-! Lines one after the other. A separator outside all substitutions makes one line of two, which
does what the two would do by themselves. -/

namespace CommandShell

namespace Shell

variable {s s' : Shell}

/-- The level that is left can be entered again. -/
theorem Kept.leave_enter (h : s.enter.Kept s') : s'.leave.enter = s' := by
  have hd : s'.depth - 1 + 1 = s'.depth := by rw [h.depth_eq, enter, Nat.add_sub_cancel]
  simp only [Shell.leave, Shell.enter, hd]

theorem Kept.isFull_eq (h : s.Kept s') : s'.isFull = s.isFull := by
  rw [isFull, isFull, h.maxDepth_eq, h.depth_eq]

end Shell

namespace Stack

open Watched (noting outcome through_after through_nested proceed_of_error proceed_of_ok)

/-- One action after another, if that does not fail. The results of the later follow those of the
earlier. -/
def andThen (first second : Action (List Result)) : Action (List Result) := fun s =>
  match first s with
  | (.error f, s) => (.error f, s)
  | (.ok rs, s) =>
      let (rs', s) := second s
      (rs'.map (rs ++ ·), s)

section Action

variable {first second third : Action (List Result)} {s s' : Shell} {rs : List Result} {f : Fault}

theorem andThen_of_ok (h : first s = (.ok rs, s')) :
    andThen first second s = ((second s').1.map (rs ++ ·), (second s').2) := by
  rw [andThen, h]

theorem andThen_of_error (h : first s = (.error f, s')) :
    andThen first second s = (.error f, s') := by
  rw [andThen, h]

theorem nothing_andThen (h : first s = (.ok [], s)) : andThen first second s = second s := by
  rw [andThen_of_ok h]
  cases second s with
  | mk r s' => cases r <;> rfl

theorem andThen_assoc :
    andThen (andThen first second) third = andThen first (andThen second third) := by
  funext s
  cases h : first s with
  | mk r s' =>
      cases r with
      | error f => rw [andThen_of_error h, andThen_of_error (andThen_of_error h)]
      | ok rs =>
          have hv : andThen first second s = ((second s').1.map (rs ++ ·), (second s').2) :=
            andThen_of_ok h
          rw [andThen_of_ok h]
          cases h' : second s' with
          | mk r s'' =>
              rw [h'] at hv
              cases r with
              | error f => rw [andThen_of_error h', andThen_of_error hv]; rfl
              | ok rs' =>
                  rw [andThen_of_ok h', andThen_of_ok hv]
                  cases third s'' with
                  | mk r s => cases r <;> simp [Except.map]

theorem nested_of_not_full {act : Action (List Result)} (hf : s.isFull = false) :
    nested act s = ((act s.enter).1, (act s.enter).2.leave) := by
  rw [nested, if_neg (by simp [hf])]

/-- Between two actions a level is left and entered again without a difference. -/
theorem nested_andThen (hk : Framed first) (hf : s.isFull = false) :
    nested (andThen first second) s = andThen (nested first) (nested second) s := by
  have hk' := hk s.enter
  rw [nested_of_not_full hf]
  cases h : first s.enter with
  | mk r s' =>
      rw [h] at hk'
      have hv : nested first s = (r, s'.leave) := by rw [nested_of_not_full hf, h]
      cases r with
      | error f => rw [andThen_of_error h, andThen_of_error hv]
      | ok rs =>
          have hf' : s'.leave.isFull = false := hk'.leave.isFull_eq.trans hf
          rw [andThen_of_ok h, andThen_of_ok hv, nested_of_not_full hf', hk'.leave_enter]

end Action

/-! ## Statements -/

section Statements

variable (run : Runner) (w : Watcher) (room : Room)

theorem runStatements_cons (statement : String) (rest : List String) :
    runStatements run room (statement :: rest) =
      andThen (fun s => ((runStatement run room statement s).1.map Option.toList,
        (runStatement run room statement s).2)) (runStatements run room rest) := by
  funext s
  rw [runStatements, andThen]
  cases runStatement run room statement s with
  | mk r s' => cases r <;> rfl

/-- Statements are run as far as they go, and then those that follow them. -/
theorem runStatements_append (before after : List String) :
    runStatements run room (before ++ after) =
      andThen (runStatements run room before) (runStatements run room after) := by
  induction before with
  | nil =>
      funext s
      exact (nothing_andThen rfl).symm
  | cons statement rest ih =>
      rw [List.cons_append, runStatements_cons, ih, ← andThen_assoc, ← runStatements_cons]

theorem watchStatements_singleton (statement : String) (s : Shell) :
    (w.statements room [statement] s).2 = (w.statement room statement s).2 := by
  rw [Watcher.statements]
  rcases h : (w.statement room statement s).1 with ⟨f | r, s'⟩
  · rw [proceed_of_error h]
  · rw [proceed_of_ok h]
    exact List.append_nil _

/-- What follows is set about in the shell that is left. -/
theorem watchStatements_append (before after : List String) (s : Shell) :
    (w.statements room (before ++ after) s).2 =
      (w.statements room before s).2 ++
        match (w.statements room before s).1 with
        | (.error _, _) => []
        | (.ok _, s) => (w.statements room after s).2 := by
  induction before generalizing s with
  | nil => rfl
  | cons statement rest ih =>
      rw [List.cons_append, Watcher.statements, Watcher.statements]
      rcases h : (w.statement room statement s).1 with ⟨f | r, s'⟩
      · rw [proceed_of_error h, proceed_of_error h]
        exact (List.append_nil _).symm
      · rw [proceed_of_ok h, proceed_of_ok h]
        dsimp only [outcome]
        rw [ih, List.append_assoc]
        rcases (w.statements room rest s').1 with ⟨f | rs, s''⟩ <;> rfl

end Statements

/-! ## Lines -/

section Lines

variable {room : Room} {line : String} {s : Shell}

/-- Nothing is caught where no bound is reached. -/
theorem rescue_of_error {act : Action (List Result)} {recover : String → List Result}
    (h : ∀ f, (act s).1 = .error f → Raised Fault.Wordless room f) :
    rescue Fault.isLimit recover act s = act s := by
  rw [rescue]
  rcases ha : act s with ⟨f | rs, s'⟩
  · rw [ha] at h
    rcases h f rfl with ⟨-, o, rfl⟩ | hf
    · rfl
    · dsimp only
      rw [recovered_of_not hf.not_limit]
  · rfl

theorem entry_of_lineClimb (hr : room.overflow? (lineClimb false) = none) :
    room.overflow? [.entry] = none :=
  Room.overflow?_of_le hr (by decide)

/-- Where a line can be entered, it is its statements one level deeper, also where it is blank. -/
theorem runLine_nested (hf : s.isFull = false) (hr : room.overflow? (lineClimb false) = none) :
    runLine room line s =
      nested (runStatements runLine (room.above lineLevels) (Syntax.splitStatements line)) s := by
  have hn : ∀ f, (nested (runStatements runLine (room.above lineLevels)
      (Syntax.splitStatements line)) s).1 = .error f → Raised Fault.Wordless room f := by
    intro f h
    rw [nested_of_not_full hf] at h
    exact (runStatements_error h).below
  rw [runLine_eq, runLineWith, after, entry_of_lineClimb hr]
  cases hb : Text.isBlankText line with
  | true =>
      rw [Syntax.splitStatements_of_blank hb, nested_of_not_full hf]
      simp [runStatements, Shell.enter, Shell.leave]
  | false =>
      simp only [Bool.false_eq_true, ↓reduceIte, hf, after, hr]
      exact rescue_of_error hn

theorem watchLine_nested (hf : s.isFull = false) (hr : room.overflow? (lineClimb false) = none) :
    (watchLine room line s).2 = ⟨.line line, s⟩ ::
      (watchLine.statements (room.above lineLevels) (Syntax.splitStatements line) s.enter).2 := by
  rw [watchLine_eq, Watcher.lineWith, noting, through_after, entry_of_lineClimb hr]
  cases hb : Text.isBlankText line with
  | true =>
      rw [Syntax.splitStatements_of_blank hb]
      rfl
  | false =>
      simp [hf, through_after, hr, outcome, through_nested]

end Lines

open Syntax.Statement (depthAfter)

section Semicolon

variable {a : String} {s : Shell} {room : Room} (hf : s.isFull = false)
  (ha : depthAfter 0 a.toList = 0)
include hf ha

theorem runLine_append (b : String) (hr : room.overflow? (lineClimb false) = none) :
    runLine room (a ++ ";" ++ b) s = andThen (runLine room a) (runLine room b) s := by
  have hk := runLine_framed room a s
  have hs : ∀ line : String, Framed (runStatements runLine (room.above lineLevels)
      (Syntax.splitStatements line)) :=
    fun line => runStatements_framed runLine_framed _ _
  rw [runLine_nested hf hr, Syntax.splitStatements_append ha, runStatements_append,
    nested_andThen (hs a) hf]
  rw [andThen, andThen, ← runLine_nested hf hr]
  cases h : runLine room a s with
  | mk r s' =>
      rw [h] at hk
      cases r with
      | error f => rfl
      | ok rs =>
          dsimp only
          rw [runLine_nested (hk.isFull_eq.trans hf) hr]

theorem watchLine_append (b : String) {rs : List Result} {s' : Shell}
    (h : runLine none a s = (.ok rs, s')) :
    (watchLine none (a ++ ";" ++ b) s).2.tail =
      (watchLine none a s).2.tail ++ (watchLine none b s').2.tail := by
  have hr : Room.overflow? none (lineClimb false) = none := rfl
  have hk := runLine_framed none a s
  rw [h] at hk
  rw [watchLine_nested hf hr, watchLine_nested hf hr,
    watchLine_nested (hk.isFull_eq.trans hf) hr, Syntax.splitStatements_append ha]
  rw [runLine_nested hf hr, nested_of_not_full hf] at h
  have hks := runStatements_framed runLine_framed (Room.above none lineLevels)
    (Syntax.splitStatements a) s.enter
  simp only [List.tail_cons, watchStatements_append, watchLine_statements]
  rcases hv : runStatements runLine (Room.above none lineLevels) (Syntax.splitStatements a)
      s.enter with ⟨r, s''⟩
  rw [hv] at h hks
  obtain ⟨rfl, rfl⟩ := Prod.mk.inj h
  rw [hks.leave_enter]

end Semicolon

/-- A line of two around a semicolon, where the first leaves no substitution open, is the one and
then the other. -/
theorem runLine_semicolon (a b : String) (s : Shell) (hd : s.depth < s.maxDepth)
    (ha : depthAfter 0 a.toList = 0) :
    ((∃ rs s' rs' s'', runLine none a s = (.ok rs, s') ∧ runLine none b s' = (.ok rs', s'') ∧
        runLine none (a ++ ";" ++ b) s = (.ok (rs ++ rs'), s'') ∧
        (watchLine none (a ++ ";" ++ b) s).2.tail =
          (watchLine none a s).2.tail ++ (watchLine none b s').2.tail) ∨
      ∃ f s', f.Wordless ∧ runLine none (a ++ ";" ++ b) s = (.error f, s') ∧
        (runLine none a s = (.error f, s') ∨
          ∃ rs s'', runLine none a s = (.ok rs, s'') ∧ runLine none b s'' = (.error f, s'))) ∧
    ∀ room, room.overflow? (lineClimb false) = none →
      runLine room (a ++ ";" ++ b) s = andThen (runLine room a) (runLine room b) s := by
  have hf : s.isFull = false := by simpa [Shell.isFull] using hd
  refine ⟨?_, fun room hr => runLine_append hf ha b hr⟩
  rw [runLine_append hf ha b rfl]
  rcases h : runLine none a s with ⟨f | rs, s'⟩
  · have hw : f.Wordless := (runLine_error (congrArg Prod.fst h)).of_none
    exact .inr ⟨f, s', hw, andThen_of_error h, .inl rfl⟩
  · rcases h' : runLine none b s' with ⟨f | rs', s''⟩
    · have hw : f.Wordless := (runLine_error (congrArg Prod.fst h')).of_none
      refine .inr ⟨f, s'', hw, ?_, .inr ⟨rs, s', rfl, h'⟩⟩
      rw [andThen_of_ok h, h']
      rfl
    · refine .inl ⟨rs, s', rs', s'', rfl, h', ?_, watchLine_append hf ha b h⟩
      rw [andThen_of_ok h, h']
      rfl

/-- A command that keeps its calls, with a call of it in a substitution before the semicolon. -/
theorem runLine_semicolon_bare :
    let note := Registry.empty.register (Behaviour.record.command "note" [])
    let s := Shell.bare note 3
    (s.depth < s.maxDepth ∧ depthAfter 0 "note $(note a;b)".toList = 0) ∧
    ∃ rs s' rs' s'', runLine none "note $(note a;b)" s = (.ok rs, s') ∧
      runLine none "note c)" s' = (.ok rs', s'') ∧
      runLine none "note $(note a;b);note c)" s = (.ok (rs ++ rs'), s'') := by
  intro note s
  have hd : s.depth < s.maxDepth := by decide
  have ha : depthAfter 0 "note $(note a;b)".toList = 0 := by decide
  have hs : Among note (fun x => x.store.entries = OrderedMap.empty) s := ⟨rfl, rfl⟩
  obtain ⟨rs, hr⟩ := (worded_record "note").runInput hs (some "note $(note a;b);note c)")
  rcases (runLine_semicolon "note $(note a;b)" "note c)" s hd ha).1 with
    ⟨rs, s', rs', s'', h, h', hab, -⟩ | ⟨f, s', -, hab, -⟩
  · exact ⟨⟨hd, ha⟩, rs, s', rs', s'', h, h', hab⟩
  · have he : (runInput none (some "note $(note a;b);note c)") s).1 = .error f :=
      congrArg Prod.fst hab
    rw [hr] at he
    contradiction

end Stack

end CommandShell
