import CommandShell.Proofs.Builtin.Effect
import CommandShell.Proofs.Builtin.Names
import CommandShell.Proofs.Execution.Nesting

/-!
Where a session is. It begins in a normal directory, and whatever moves it resolves a path from
there, so that it is in a normal one at every moment. Two moves in succession lead to where one
along both paths leads.
-/

namespace CommandShell

open CommandShell.Path (IsNormal IsStep NamesAccount ofString)

/-- Whether a session is in a normal directory if another one was. -/
def Session.StaysNormal (x y : Session) : Prop :=
  x.cwd.IsNormal → y.cwd.IsNormal

/-- Whether a command keeps a session in a normal directory, whatever its arguments. -/
def Command.StaysNormal (c : Command) : Prop :=
  ∀ d args, c.Does Session.StaysNormal d args

/-! ## Commands -/

namespace Builtin

theorem staysNormal {c : Command} (hc : c ∈ all) : c.StaysNormal :=
  fun d args => (builtin_does d args c hc).mono fun _ _ hg => hg.normal

theorem change_eq_ok {x y : Session} {o : Output} {target : String} {more : List String} :
    Browse.change (target :: more) x = (.ok o, y) ↔
      ∃ p, x.resolve target = .ok p ∧ x.disk.isDirectory p = .ok true ∧
        o = .nothing ∧ y = { x with cwd := p } := by
  rw [Browse.change, Session.withPath]
  cases x.resolve target with
  | error f => simp [Session.fail]
  | ok p =>
      dsimp only
      rcases hd : x.disk.isDirectory p with f | _ | _
      · simp [Session.fail, hd]
      · simp [Session.object, Session.fail, hd]
      · simp [Session.answer, hd, eq_comm]

/-- Moving twice leads to where moving once along both paths leads. -/
theorem change_change {x y z : Session} {o o' : Output} {a b : String} {more more' : List String}
    (hx : x.cwd.IsNormal) (ha : IsStep a) (hb : IsStep b)
    (hy : Browse.change (a :: more) x = (.ok o, y))
    (hz : Browse.change (b :: more') y = (.ok o', z)) :
    Browse.change [a ++ "/" ++ b] x = (.ok o', z) := by
  obtain ⟨p, hp, -, -, rfl⟩ := change_eq_ok.mp hy
  obtain ⟨q, hq, hd, rfl, rfl⟩ := change_eq_ok.mp hz
  refine change_eq_ok.mpr ⟨q, ?_, hd, rfl, rfl⟩
  exact (Path.resolve_resolve hx.absolute ha hb hp).symm.trans hq

end Builtin

theorem Behaviour.staysNormal (b : Behaviour) (name : String) (aliases : List String) :
    (b.command name aliases).StaysNormal := by
  intro d args
  refine ⟨?_, fun ho => nomatch ho⟩
  cases b with
  | line text => exact fun rs x => id
  | _ => exact fun x => id

namespace Stack

/-! ## Sessions -/

/-- Whether a shell is in a normal directory, where all of its commands keep it. -/
structure Located (s : Shell) : Prop where
  normal : s.session.cwd.IsNormal
  command {name : String} {c : Command} (h : s.registry.find? name = some c) : c.StaysNormal

/-- Whether an event is no move by the host to somewhere that is not normal, by itself or by a
command that it adds. -/
def Event.StaysNormal : Event → Prop
  | request _ _ => True
  | change f => ∀ x : Session, x.StaysNormal (f x)
  | register c => c.StaysNormal
  | allow _ => True

theorem announced_cwd (c : Command) (s : Shell) :
    (if c.card.name = clearName then s.announceClear else s).session.cwd = s.session.cwd := by
  split
  · rw [Shell.announceClear]
    split <;> rfl
  · rfl

theorem normal_account {r : Registry}
    (hr : ∀ {name c}, r.find? name = some c → c.StaysNormal) :
    Account r fun ms x y => x.cwd.IsNormal →
      y.cwd.IsNormal ∧ ∀ m ∈ ms, m.shell.session.cwd.IsNormal where
  still x hx := ⟨hx, fun m hm => absurd hm List.not_mem_nil⟩
  next h h' hx := by
    obtain ⟨hy, hms⟩ := h hx
    obtain ⟨hz, hms'⟩ := h' hy
    exact ⟨hz, fun m hm => (List.mem_append.mp hm).elim (hms m) (hms' m)⟩
  seen s ha hx := ⟨hx, fun m hm => List.mem_singleton.mp hm ▸ hx⟩
  unknown hs hf hx := ⟨hx, fun m hm => List.mem_singleton.mp hm ▸ hx⟩
  called {i c s} hs hf := by
    refine .inr ⟨fun hx => ⟨?_, fun m hm => List.mem_singleton.mp hm ▸ hx⟩, ?_⟩
    · rwa [announced_cwd]
    · exact (hr hf r.directory i.args).mono fun x y h hx =>
        ⟨h hx, fun m hm => absurd hm List.not_mem_nil⟩

theorem Located.request {s : Shell} (h : Located s) (room : Room) (q : Request) :
    (q.leaves room s).session.cwd.IsNormal ∧
      ∀ m ∈ q.trace room s, m.shell.session.cwd.IsNormal :=
  (normal_account h.command).request room q s rfl h.normal

theorem Located.leaves {s : Shell} (h : Located s) {e : Event} (he : e.StaysNormal) :
    Located (e.leaves s) := by
  cases e with
  | request room q =>
      refine ⟨(h.request room q).1, fun {name c} hf => ?_⟩
      have hr : (q.leaves room s).registry = s.registry := (q.leaves_kept room s).registry_eq
      rw [Event.leaves, hr] at hf
      exact h.command hf
  | change f => exact ⟨he _ h.normal, h.command⟩
  | register c =>
      refine ⟨h.normal, fun {name c'} hf => ?_⟩
      have hn : name ≠ "" := by
        rintro rfl
        exact nomatch hf
      have hr : ([c].foldl Registry.register s.registry).find? name = some c' := hf
      rw [Registry.find?_foldl_register _ _ hn] at hr
      rcases Option.or_eq_some_iff.mp hr with hc | ⟨-, hc⟩
      · obtain rfl := List.mem_singleton.mp (List.mem_of_find?_eq_some hc)
        exact he
      · exact h.command hc
  | allow passes => exact ⟨h.normal, h.command⟩

theorem Located.history {s : Shell} (h : Located s) {events : List Event}
    (he : ∀ e ∈ events, e.StaysNormal) : Located (history events s) := by
  induction events generalizing s with
  | nil => exact h
  | cons e rest ih =>
      rw [List.forall_mem_cons] at he
      exact ih (h.leaves he.1) he.2

theorem located_of_start {commands : List Command} {maxDepth : Int} {file : Option Path}
    {announces : Bool} {w : Surroundings} {s : Shell} (hc : ∀ c ∈ commands, c.StaysNormal)
    (h : Shell.start (commands.foldl Registry.register .empty) maxDepth file announces w = .ok s)
    (hw : IsNormal ⟨.slash, w.disk.start⟩) : Located s := by
  rw [Shell.start] at h
  split at h
  · contradiction
  · contradiction
  · rename_i cwd _ hp
    rw [Disk.startPath] at hp
    cases h
    refine ⟨?_, fun {name c} hf => hc c ?_⟩
    · split at hp
      · cases hp
        exact hw
      · contradiction
    · rw [Registry.find?] at hf
      split at hf
      · contradiction
      · rw [Registry.get?_registered] at hf
        exact List.mem_reverse.mp (List.mem_of_find?_eq_some hf)

/-- From an absolute base a text is resolved to a normal path, unless its account cannot be looked
up. Two steps lead where one does. -/
theorem resolution_composes :
    (∀ accounts base raw, (ofString base).isAbsolute = true →
      (∀ account f, NamesAccount raw account → FileFault.ofName? (String.ofList account) = some f →
        Path.resolve accounts (ofString base) raw = .error f) ∧
      ((∀ account, NamesAccount raw account → FileFault.ofName? (String.ofList account) = none) →
        ∃ p, Path.resolve accounts (ofString base) raw = .ok p ∧ p.IsNormal ∧
          ∀ accounts' base', Path.resolve accounts' base' p.text = .ok p)) ∧
    (∀ accounts base a b, (ofString base).isAbsolute = true → IsStep a → IsStep b →
      ∃ p q, Path.resolve accounts (ofString base) a = .ok p ∧ Path.resolve accounts p b = .ok q ∧
        Path.resolve accounts (ofString base) (a ++ "/" ++ b) = .ok q) ∧
    (∀ (x y z : Session) o o' a b more more', x.cwd.IsNormal → IsStep a → IsStep b →
      Builtin.Browse.change (a :: more) x = (.ok o, y) →
      Builtin.Browse.change (b :: more') y = (.ok o', z) →
      Builtin.Browse.change [a ++ "/" ++ b] x = (.ok o', z)) ∧
    (∀ c : Command, (c ∈ Builtin.all ∨ ∃ (b : Behaviour) (name : String) (aliases : List String),
      c = b.command name aliases) → c.StaysNormal) ∧
    (∀ (commands : List Command) maxDepth file announces w s, (∀ c ∈ commands, c.StaysNormal) →
      Shell.start (commands.foldl Registry.register .empty) maxDepth file announces w = .ok s →
      IsNormal ⟨.slash, w.disk.start⟩ → ∀ events, (∀ e ∈ events, e.StaysNormal) →
      (history events s).session.cwd.IsNormal ∧
        ∀ room (q : Request), ∀ m ∈ q.trace room (history events s),
          m.shell.session.cwd.IsNormal) := by
  refine ⟨?_, ?_, ?_, ?_, ?_⟩
  · intro accounts base raw hb
    refine ⟨fun account f hn hf => ?_, fun hn => ?_⟩
    · exact Path.resolve_eq_error.mpr ⟨account, hn, hf⟩
    · obtain ⟨p, hp⟩ := Path.exists_resolve accounts (ofString base) hn
      have hnormal := Path.isNormal_of_resolve hb (fun _ h => Path.isPart_of_mem h) hp
      exact ⟨p, hp, hnormal, hnormal.resolve_text⟩
  · intro accounts base a b hbase ha hb
    have hp := ha.resolve_eq accounts (ofString base)
    have hq := hb.resolve_eq accounts ((ofString base).join (ofString a)).normalize
    exact ⟨_, _, hp, hq, (Path.resolve_resolve hbase ha hb hp).symm.trans hq⟩
  · intro x y z o o' a b more more' hx ha hb hy hz
    exact Builtin.change_change hx ha hb hy hz
  · rintro c (hc | ⟨b, name, aliases, rfl⟩)
    · exact Builtin.staysNormal hc
    · exact b.staysNormal name aliases
  · intro commands maxDepth file announces w s hc h hw events he
    have hl := (located_of_start hc h hw).history he
    exact ⟨hl.normal, fun room q => (hl.request room q).2⟩

/-- A text without a tilde, steps from the root to itself, and a session that goes up from there. -/
theorem resolution_composes_root :
    let accounts : Accounts := ⟨some "home", fun _ => none⟩
    let x := (Shell.bare Builtin.registry 32).session
    let events := [Event.request none (.line (some "cd ..")), .allow 3]
    (∃ p, Path.resolve accounts (ofString "//b") "c/../../.." = .ok p ∧ p.IsNormal) ∧
    (IsStep ".." ∧ ∃ p q, Path.resolve accounts (ofString "/b") ".." = .ok p ∧
      Path.resolve accounts p ".." = .ok q ∧ Path.resolve accounts (ofString "/b") "../.." = .ok q) ∧
    Builtin.Browse.change ["./."] x = (.ok .nothing, x) ∧
    (history events (Shell.bare Builtin.registry 32)).session.cwd.IsNormal := by
  intro accounts x events
  obtain ⟨hresolve, hsteps, hchange, hcommands, hsessions⟩ := resolution_composes
  have hup : IsStep ".." := ⟨'.', ['.'], by decide, by decide, by decide⟩
  have hstay : IsStep "." := ⟨'.', [], by decide, by decide, by decide⟩
  have hnone : ∀ account, NamesAccount "c/../../.." account →
      FileFault.ofName? (String.ofList account) = none := by
    rintro account ⟨rest, hr, -⟩
    exact absurd (List.cons.inj hr).1 (by decide)
  obtain ⟨p, hp, hn, -⟩ := (hresolve accounts "//b" "c/../../.." (by decide)).2 hnone
  refine ⟨⟨p, hp, hn⟩, ⟨hup, hsteps accounts "/b" ".." ".." (by decide) hup hup⟩, ?_, ?_⟩
  · have hx : Builtin.Browse.change ["."] x = (.ok .nothing, x) := by
      have hd : x.resolve "." = .ok ⟨.slash, []⟩ := (hstay.resolve_eq _ _).trans (by decide)
      exact Builtin.change_eq_ok.mpr ⟨_, hd, by decide, rfl, rfl⟩
    exact hchange x x x .nothing .nothing "." "." [] [] Path.isNormal_root hstay hstay hx hx
  · refine (hsessions Builtin.all 32 none false .empty _ (fun c hc => hcommands c (.inl hc))
      (Shell.start_empty _ 32) Path.isNormal_root events ?_).1
    simp [events, Event.StaysNormal]

/-- The name of an account may hold what the system cannot take. -/
theorem resolution_at_fault :
    (ofString "/b").isAbsolute = true ∧
      Path.resolve ⟨some "/home/u", fun _ => none⟩ (ofString "/b") "~\x00" =
        .error .nullCharacter := by
  refine ⟨by decide, ?_⟩
  have hf : FileFault.ofName? (String.ofList ['\x00']) = some .nullCharacter := by decide
  have hn : NamesAccount "~\x00" ['\x00'] :=
    ⟨[], by decide, by decide, by decide, fun c hc => nomatch hc⟩
  exact Path.resolve_eq_error.mpr ⟨_, hn, hf⟩

end Stack

end CommandShell
