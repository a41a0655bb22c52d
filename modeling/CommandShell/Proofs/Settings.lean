import CommandShell.Proofs.Alias.Walk
import CommandShell.Proofs.Files.Drop
import CommandShell.Startup

/-!
Interpreters as their settings ask for them. A setting that makes no sense is passed over where the
bound on nesting is no number, and where the store has a file that cannot be read. Some settings are
not passed over: a bound without an end, a file for the store that is neither a text nor counts as
absent, and one that cannot even be looked for. These are all that keeps an interpreter from being
started, wherever it has a directory to start in and a stack that is deep enough.
-/

namespace CommandShell

/-! ## Reading without bounds -/

namespace Json

variable {o : Overflow}

theorem Reader.step_none_ne (s : Reader.State) (position : Nat) (w : Lexeme) :
    Reader.step none s position w ≠ .error (.tooDeep o) := by
  have hvalue : ∀ frames w, Reader.startValue none frames position w ≠ .error (.tooDeep o) := by
    intro frames w h
    cases w <;> cases h
  have hname : ∀ frames done w,
      Reader.startName frames done position w ≠ .error (.tooDeep o) := by
    intro frames done w h
    cases w <;> cases h
  intro h
  unfold Reader.step at h
  split at h
  all_goals first
    | exact hvalue _ _ h
    | exact hname _ _ _ h
    | cases h

theorem Reader.run_none_ne (stop : Nat) (s : Reader.State) (ws : List (Lexeme × Nat)) :
    Reader.run none stop s ws ≠ .error (.tooDeep o) := by
  induction ws generalizing s with
  | nil =>
      intro h
      rw [Reader.run, Reader.finish] at h
      split at h <;> cases h
  | cons w rest ih =>
      intro h
      rw [Reader.run] at h
      split at h
      · rename_i e hs
        cases h
        exact Reader.step_none_ne s w.2 w.1 hs
      · exact ih _ h

/-- Where nesting is not bounded no text is nested too far. -/
theorem read_none_ne (s : String) : Json.read none s ≠ .error (.tooDeep o) := by
  intro h
  rw [read] at h
  split at h
  · cases h
  · rw [readText] at h
    dsimp only at h
    split at h
    · cases h
    · cases h
    · cases h
    · rename_i hr
      exact Reader.run_none_ne _ _ _ hr

end Json

/-! ## Opening a store -/

namespace Store

variable {bound : Json.Bound} {d : Disk} {p : Path} {f : FileFault}

theorem load_eq_error (h : load bound d p = .error f) : bound ≠ none ∧ ∃ o, f = .tooDeep o := by
  rw [load] at h
  split at h
  · cases h
  · split at h
    · cases h
    · rename_i o hr
      cases h
      refine ⟨fun hb => ?_, o, rfl⟩
      rw [hb] at hr
      exact Json.read_none_ne _ hr
    · cases h

/-- What keeps a store from being opened. -/
inductive Unopened (r : Room) (d : Disk) (p : Path) : FileFault → Prop
  | overlong (h : Disk.Overlong p)
      (he : d.exists? p = .error (.system .nameTooLong p.text)) :
      Unopened r d p (.system .nameTooLong p.text)
  | tooDeep {o} (hr : r ≠ none) (he : d.exists? p = .ok true)
      (hl : load (.ofRoom (r.above openingLevels)) d p = .error (.tooDeep o)) :
      Unopened r d p (.tooDeep o)

theorem open_eq_error {r : Room} {file : Option Path} :
    open_ r d file = .error f ↔ ∃ p, file = some p ∧ Unopened r d p f := by
  cases file with
  | none => simp [open_]
  | some p =>
      simp only [Option.some.injEq, exists_eq_left']
      rw [open_]
      constructor
      · intro h
        split at h
        · rename_i he
          cases h
          obtain ⟨hlong, rfl⟩ := Disk.exists?_eq_error he
          exact .overlong hlong he
        · contradiction
        · rename_i he
          split at h
          · rename_i hl
            cases h
            obtain ⟨hb, o, rfl⟩ := load_eq_error hl
            refine .tooDeep (fun hr => hb ?_) he hl
            rw [hr]
            rfl
          · contradiction
      · intro h
        cases h with
        | overlong h he => simp [he]
        | tooDeep hr he hl => simp [he, hl]

theorem open_file {r : Room} {file : Option Path} {st : Store} (h : open_ r d file = .ok st) :
    st.file = file := by
  cases file with
  | none =>
      cases h
      rfl
  | some p =>
      rw [open_] at h
      split at h
      · contradiction
      · cases h
        rfl
      · split at h
        · contradiction
        · cases h
          rfl

end Store

namespace Settings

variable {c : Settings} {n : Int} {file : Option Path} {f : Fault}

/-! ## The bound on nesting -/

theorem ofText_ne_infinite (s : String) : Whole.ofText s ≠ .error .infinite := by
  intro h
  unfold Whole.ofText at h
  dsimp only at h
  split at h
  all_goals repeat' split at h
  all_goals cases h

/-- Only numbers without an end are too large to be cut. -/
theorem whole_eq_infinite {v : Json} :
    v.whole = .error .infinite ↔
      ∃ x negative, v = .float x ∧ Decimal.Binary.ofFloat x = .infinite negative := by
  constructor
  · intro h
    cases v with
    | float x =>
        rw [Json.whole, Whole.ofFloat] at h
        split at h
        · cases h
        · rename_i negative hx
          exact ⟨x, negative, rfl, hx⟩
        · cases h
    | str s => exact absurd h (ofText_ne_infinite s)
    | null | bool b | int n | arr items | obj fields => cases h
  · rintro ⟨x, negative, rfl, hx⟩
    rw [Json.whole, Whole.ofFloat, hx]

/-- The bound on nesting that settings ask for: the number that they set, cut to its whole part and
at least one, or the usual bound if they set none. -/
structure Bounds (c : Settings) (n : Int) : Prop where
  pos : 1 ≤ n
  number {v : Json} {m : Int} (h : c.get? "max_depth" = some v) (hm : v.whole = .ok m) : n = max 1 m
  usual (h : ∀ v m, c.get? "max_depth" = some v → v.whole ≠ .ok m) : n = 32

theorem bounds_of_maxDepth (h : c.maxDepth = .ok n) : c.Bounds n := by
  rw [maxDepth] at h
  cases hv : c.get? "max_depth" with
  | none =>
      rw [hv] at h
      cases h
      exact ⟨by decide, fun h _ => (nomatch hv.symm.trans h), fun _ => rfl⟩
  | some v =>
      have hs : ∀ {v'}, c.get? "max_depth" = some v' → v' = v := fun h =>
        Option.some.inj (h.symm.trans hv)
      rw [hv] at h
      dsimp only at h
      cases hw : v.whole with
      | ok m =>
          rw [hw] at h
          cases h
          refine ⟨Int.le_max_left 1 m, fun h hm => ?_, fun h => absurd hw (h v m hv)⟩
          rw [hs h, hw] at hm
          cases hm
          rfl
      | error e =>
          have hn : n = 32 := by
            rw [hw] at h
            cases e <;> cases h <;> rfl
          subst hn
          refine ⟨by decide, fun h hm => ?_, fun _ => rfl⟩
          rw [hs h, hw] at hm
          contradiction

theorem maxDepth_eq_error :
    c.maxDepth = .error f ↔ f = .number .infinite ∧ ∃ x negative,
      c.get? "max_depth" = some (.float x) ∧ Decimal.Binary.ofFloat x = .infinite negative := by
  have hw : c.maxDepth = .error f ↔ f = .number .infinite ∧
      ∃ v, c.get? "max_depth" = some v ∧ v.whole = .error .infinite := by
    rw [maxDepth]
    cases hv : c.get? "max_depth" with
    | none => simp
    | some v =>
        simp only [Option.some.injEq, exists_eq_left']
        cases v.whole with
        | ok m => simp
        | error e => cases e <;> simp [eq_comm]
  rw [hw]
  refine and_congr_right fun _ => ⟨?_, ?_⟩
  · rintro ⟨v, hv, h⟩
    obtain ⟨x, negative, rfl, hx⟩ := whole_eq_infinite.mp h
    exact ⟨x, negative, hv, hx⟩
  · rintro ⟨x, negative, hv, hx⟩
    exact ⟨_, hv, whole_eq_infinite.mpr ⟨x, negative, rfl, hx⟩⟩

/-! ## The file of the store -/

/-- The file that settings name for the store: the usual one if they say nothing of it, and none if
what they say counts as absent. -/
inductive Keeps (c : Settings) : Option Path → Prop
  | usual (h : c.get? "cache_file" = none) : Keeps c (some (Path.ofString "console_cache.json"))
  | named {s} (h : c.get? "cache_file" = some (.str s)) (hs : s ≠ "") :
      Keeps c (some (Path.ofString s))
  | nowhere {v} (h : c.get? "cache_file" = some v) (hv : v.isTruthy = false) : Keeps c none

/-- A setting for the file that is no text and does not count as absent either. -/
inductive NoFile (c : Settings) : Fault → Prop
  | other {v} (h : c.get? "cache_file" = some v) (ht : v.isTruthy = true)
      (hv : ∀ s, v ≠ .str s) : NoFile c (.notPath v.kindName)

theorem storeFile_of_keeps (h : c.Keeps file) : c.storeFile = .ok file := by
  cases h with
  | usual h =>
      rw [storeFile, h]
      rfl
  | @named s h hs =>
      have ht : (Json.str s).isTruthy = true := by simpa [Json.isTruthy] using hs
      rw [storeFile, h, Option.getD_some, fileOf, if_pos ht]
  | nowhere h hv =>
      rw [storeFile, h, Option.getD_some, fileOf.eq_def, if_neg (by simp [hv])]

theorem storeFile_of_noFile (h : c.NoFile f) : c.storeFile = .error f := by
  cases h with
  | @other v h ht hv =>
      rw [storeFile, h, Option.getD_some, fileOf.eq_def, if_pos ht]
      split
      · rename_i s
        exact absurd rfl (hv s)
      · rfl

theorem keeps_or_noFile (c : Settings) : (∃ file, c.Keeps file) ∨ ∃ f, c.NoFile f := by
  cases h : c.get? "cache_file" with
  | none => exact .inl ⟨_, .usual h⟩
  | some v =>
      cases ht : v.isTruthy with
      | false => exact .inl ⟨_, .nowhere h ht⟩
      | true =>
          by_cases hv : ∃ s, v = .str s
          · obtain ⟨s, rfl⟩ := hv
            exact .inl ⟨_, .named h (by simpa [Json.isTruthy] using ht)⟩
          · exact .inr ⟨_, .other h ht fun s hs => hv ⟨s, hs⟩⟩

theorem storeFile_eq_ok : c.storeFile = .ok file ↔ c.Keeps file := by
  refine ⟨fun h => ?_, storeFile_of_keeps⟩
  rcases c.keeps_or_noFile with ⟨file', hk⟩ | ⟨f, hf⟩
  · rw [storeFile_of_keeps hk] at h
    cases h
    exact hk
  · rw [storeFile_of_noFile hf] at h
    contradiction

theorem storeFile_eq_error : c.storeFile = .error f ↔ c.NoFile f := by
  refine ⟨fun h => ?_, storeFile_of_noFile⟩
  rcases c.keeps_or_noFile with ⟨file, hk⟩ | ⟨f', hf⟩
  · rw [storeFile_of_keeps hk] at h
    contradiction
  · rw [storeFile_of_noFile hf] at h
    cases h
    exact hf

/-! ## Starting -/

/-- What keeps an interpreter from being started with some settings. -/
inductive Obstacle (c : Settings) (w : Surroundings) : Fault → Prop
  | endless {x negative} (h : c.get? "max_depth" = some (.float x))
      (hx : Decimal.Binary.ofFloat x = .infinite negative) : Obstacle c w (.number .infinite)
  | noFile {f : Fault} (h : c.NoFile f) : Obstacle c w f
  | unopened {p : Path} {f : FileFault} (h : c.Keeps (some p))
      (hf : Store.Unopened (w.room.above Shell.startingLevels) w.disk p f) :
      Obstacle c w (.file f)
  | astray (h : w.disk.lost ≠ 0) : Obstacle c w (.file (.system .noEntry none))

/-- Whether an interpreter is as some settings ask for. -/
structure Followed (c : Settings) (w : Surroundings) (s : Shell) : Prop where
  bounds : c.Bounds s.maxDepth
  /-- Names are followed through aliases up to the same bound. -/
  aliases {name : String} (h : Alias.Endless s.session.store.entries name) {text : String}
    {args : List String} (ht : Syntax.tokenize (s.session.expandVariables text) = name :: args) :
    Stack.read none text s = .error (.limit (.aliases s.maxDepth))
  keeps : c.Keeps s.session.store.file
  opened :
    Store.open_ (w.room.above Shell.startingLevels) w.disk s.session.store.file =
      .ok s.session.store

end Settings

namespace Stack

theorem read_endless {name text : String} {args : List String} {s : Shell}
    (h : Alias.Endless s.session.store.entries name)
    (ht : Syntax.tokenize (s.session.expandVariables text) = name :: args) :
    read none text s = .error (.limit (.aliases s.maxDepth)) := by
  simp only [read, Room.overflow?_none, Room.above_none, ht, resolve_of_endless h, Except.map]

end Stack

namespace Shell

open Settings (Followed Obstacle)

variable {c : Settings} {announces : Bool} {w : Surroundings} {s : Shell} {f : Fault}

theorem startPath_cases (d : Disk) :
    d.lost = 0 ∧ d.startPath = .ok ⟨.slash, d.start⟩ ∨
      d.lost ≠ 0 ∧ d.startPath = .error (.system .noEntry none) := by
  rw [Disk.startPath]
  split
  · rename_i h
    exact .inl ⟨h, rfl⟩
  · rename_i h
    exact .inr ⟨h, rfl⟩

theorem ofSettings_ok (h : ofSettings c announces w = .ok s) : c.Followed w s := by
  rw [ofSettings] at h
  split at h
  · contradiction
  · contradiction
  · rename_i n file hn hfile
    rw [start] at h
    split at h
    · contradiction
    · contradiction
    · rename_i st cwd hst _
      cases h
      have hs : st.file = file := Store.open_file hst
      exact ⟨Settings.bounds_of_maxDepth hn, fun he _ _ ht => Stack.read_endless he ht,
        Settings.storeFile_eq_ok.mp (hs ▸ hfile), hs ▸ hst⟩

theorem ofSettings_error (h : ofSettings c announces w = .error f) : Obstacle c w f := by
  rw [ofSettings] at h
  split at h
  · rename_i hm
    cases h
    obtain ⟨rfl, x, negative, hx, hi⟩ := Settings.maxDepth_eq_error.mp hm
    exact .endless hx hi
  · rename_i hf _
    cases h
    exact .noFile (Settings.storeFile_eq_error.mp hf)
  · rename_i n file hn hfile
    rw [start] at h
    split at h
    · rename_i ho
      cases h
      obtain ⟨p, rfl, hu⟩ := Store.open_eq_error.mp ho
      exact .unopened (Settings.storeFile_eq_ok.mp hfile) hu
    · rename_i hp _
      cases h
      rcases startPath_cases w.disk with ⟨-, ho⟩ | ⟨hl, ho⟩
      · exact nomatch hp.symm.trans ho
      · cases hp.symm.trans ho
        exact .astray hl
    · contradiction

theorem not_ofSettings_ok (h : Obstacle c w f) : ofSettings c announces w ≠ .ok s := by
  intro hs
  rw [ofSettings] at hs
  split at hs
  · contradiction
  · contradiction
  · rename_i n file hn hfile
    rw [start] at hs
    split at hs
    · contradiction
    · contradiction
    · rename_i st cwd ho hp
      cases h with
      | endless h hx =>
          have he := Settings.maxDepth_eq_error.mpr ⟨rfl, _, _, h, hx⟩
          exact nomatch hn.symm.trans he
      | noFile h => exact nomatch hfile.symm.trans (Settings.storeFile_eq_error.mpr h)
      | @unopened p f h hu =>
          cases hfile.symm.trans (Settings.storeFile_eq_ok.mpr h)
          exact nomatch ho.symm.trans (Store.open_eq_error.mpr ⟨p, rfl, hu⟩)
      | astray h =>
          rcases startPath_cases w.disk with ⟨hl, -⟩ | ⟨-, he⟩
          · exact h hl
          · exact nomatch hp.symm.trans he

/-- An interpreter that is started has the bound and the store that the settings ask for. Only the
obstacles keep it from starting. -/
theorem settings_followed (c : Settings) (announces : Bool) (w : Surroundings) :
    (∀ s, ofSettings c announces w = .ok s → c.Followed w s) ∧
    ((∃ s, ofSettings c announces w = .ok s) ↔ ∀ f, ¬Obstacle c w f) ∧
    (∀ f, ofSettings c announces w = .error f → Obstacle c w f) := by
  refine ⟨fun s h => ofSettings_ok h, ⟨?_, fun h => ?_⟩, fun f h => ofSettings_error h⟩
  · rintro ⟨s, hs⟩ f hf
    exact not_ofSettings_ok hf hs
  · cases hs : ofSettings c announces w with
    | ok s => exact ⟨s, rfl⟩
    | error f => exact absurd (ofSettings_error hs) (h f)

/-- A number in a text is set, a list sets none, and no file is named. -/
theorem settings_followed_number :
    let numbered : Settings := OrderedMap.ofList [("max_depth", .str " 7 "), ("cache_file", .null)]
    let listed : Settings :=
      OrderedMap.ofList [("max_depth", .arr [.int 7]), ("cache_file", .str "")]
    (∃ s, ofSettings numbered false .empty = .ok s ∧ s.maxDepth = 7 ∧
      numbered.Keeps s.session.store.file) ∧
    (∃ s, ofSettings listed false .empty = .ok s ∧ s.maxDepth = 32) ∧
    (∀ f, ¬Obstacle listed .empty f) := by
  intro numbered listed
  obtain ⟨s, hs⟩ : ∃ s, ofSettings numbered false .empty = .ok s := ⟨_, rfl⟩
  obtain ⟨t, ht⟩ : ∃ t, ofSettings listed false .empty = .ok t := ⟨_, rfl⟩
  have hn := (settings_followed numbered false .empty).1 s hs
  have hl := settings_followed listed false .empty
  refine ⟨⟨s, hs, ?_, hn.keeps⟩, ⟨t, ht, (hl.1 t ht).bounds.usual ?_⟩, hl.2.1.mp ⟨t, ht⟩⟩
  · exact hn.bounds.number (v := .str " 7 ") (m := 7) rfl rfl
  · intro v m hv hm
    cases hv
    contradiction

/-- A number without an end and a number for a file are fatal, and a file that is denied is none. -/
theorem settings_fatal :
    ofSettings (OrderedMap.ofList [("max_depth", .float (1.0 / 0.0))]) false .empty =
        .error (.number .infinite) ∧
      ofSettings (OrderedMap.ofList [("cache_file", .int 42)]) false .empty =
        .error (.notPath "int") ∧
      ∃ s, ofSettings (OrderedMap.ofList [("cache_file", .bool false)]) false .empty = .ok s ∧
        s.session.store.file = none :=
  ⟨rfl, rfl, _, rfl, rfl⟩

end Shell

end CommandShell
