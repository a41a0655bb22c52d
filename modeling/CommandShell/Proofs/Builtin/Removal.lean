import CommandShell.Builtin.Table
import CommandShell.Proofs.Builtin.Writing
import CommandShell.Proofs.Files.Drop

/-!
Files and directories that are removed. Each target has its turn: what is there then is dropped with
everything below it, and what is not there is complained about. What is left in the end, and which
targets are there when their turns come, can be told from the disk as it was in the beginning.
-/

namespace CommandShell.Builtin.File

open CommandShell.Path (IsNormal NamesAccount)
open Disk (Overlong)

/-! ## Turns -/

/-- Targets that have their turns one after the other, with complaints about those that are not
there and about the root, which is emptied and stays. -/
inductive Removal (resolve : String → Except FileFault Path) :
    Disk → List String → List String → Disk → Prop
  | done (d : Disk) : Removal resolve d [] [] d
  | dropped {d d' target p rest failures} (hr : resolve target = .ok p)
      (he : d.exists? p = .ok true) (hn : p.parts ≠ [])
      (h : Removal resolve (d.drop p.parts) rest failures d') :
      Removal resolve d (target :: rest) failures d'
  | root {d d' target p rest failures} (hr : resolve target = .ok p)
      (he : d.exists? p = .ok true) (hn : p.parts = [])
      (h : Removal resolve (d.drop p.parts) rest failures d') :
      Removal resolve d (target :: rest) (("Failed to delete: " ++ p.text) :: failures) d'
  | missing {d d' target p rest failures} (hr : resolve target = .ok p)
      (he : d.exists? p = .ok false) (h : Removal resolve d rest failures d') :
      Removal resolve d (target :: rest)
        (("File or directory does not exist: " ++ p.text) :: failures) d'

/-- Whether a target cannot even be looked up. -/
def Unseen (resolve : String → Except FileFault Path) (d : Disk) (target : String)
    (f : FileFault) : Prop :=
  resolve target = .error f ∨ ∃ p, resolve target = .ok p ∧ d.exists? p = .error f

variable {resolve : String → Except FileFault Path} {d d' d₁ : Disk} {p q : Path} {f : FileFault}
  {target : String} {targets rest before failures : List String} {place : Place}

/-- A target that can be looked up has a turn. -/
theorem removeAt_turn (hp : p.IsNormal) (hr : resolve target = .ok p)
    (hd : ∀ f, d.exists? p ≠ .error f) :
    ∃ failure d₁, removeAt d p = (.ok failure, d₁) ∧
      ∀ {rest failures d'}, Removal resolve d₁ rest failures d' →
        Removal resolve d (target :: rest) (failure.toList ++ failures) d' := by
  rw [removeAt, Disk.isLink_eq]
  rcases he : d.exists? p with f | _ | _
  · exact absurd he (hd f)
  · exact ⟨_, _, rfl, .missing hr he⟩
  · simp only [Disk.delete_of_exists hp he]
    by_cases hn : p.parts = []
    · rw [if_pos hn, ← hn]
      exact ⟨_, _, rfl, .root hr he hn⟩
    · rw [if_neg hn]
      exact ⟨_, _, rfl, .dropped hr he hn⟩

/-- All targets have their turns, or those before the first one that cannot be looked up. -/
theorem removeAll_removal (hres : ∀ target p, resolve target = .ok p → p.IsNormal) (d : Disk)
    (targets : List String) :
    (∃ failures d', Removal resolve d targets failures d' ∧
      removeAll resolve d targets = (.ok failures, d')) ∨
    ∃ before target after failures d' f, targets = before ++ target :: after ∧
      Removal resolve d before failures d' ∧ Unseen resolve d' target f ∧
      removeAll resolve d targets = (.error f, d') := by
  induction targets generalizing d with
  | nil => exact .inl ⟨[], d, .done d, rfl⟩
  | cons target rest ih =>
      rw [removeAll]
      cases hr : resolve target with
      | error f => exact .inr ⟨[], target, rest, [], d, f, rfl, .done d, .inl hr, rfl⟩
      | ok p =>
          by_cases hd : ∃ f, d.exists? p = .error f
          · obtain ⟨f, he⟩ := hd
            refine .inr ⟨[], target, rest, [], d, f, rfl, .done d, .inr ⟨p, hr, he⟩, ?_⟩
            simp only [removeAt, he]
          · obtain ⟨failure, d₁, ha, hturn⟩ :=
              removeAt_turn (hres target p hr) hr (not_exists.mp hd)
            dsimp only
            rw [ha]
            dsimp only
            rcases ih d₁ with ⟨failures, d', h, hv⟩ |
              ⟨before, later, after, failures, d', f, rfl, h, hu, hv⟩
            · exact .inl ⟨_, d', hturn h, by rw [hv]; rfl⟩
            · refine .inr ⟨target :: before, later, after, _, d', f, rfl, hturn h, hu, ?_⟩
              rw [hv]
              rfl

/-! ## What is left -/

/-- Whether a target that is there leads to a place, or to a directory above it. -/
def Gone (resolve : String → Except FileFault Path) (d : Disk) (targets : List String)
    (place : Place) : Prop :=
  ∃ target ∈ targets, ∃ p, resolve target = .ok p ∧ d.exists? p = .ok true ∧ p.parts <+: place

section Left

theorem not_gone_nil : ¬Gone resolve d [] place :=
  fun ⟨_, hm, _⟩ => absurd hm List.not_mem_nil

/-- A target that is not there makes no difference. -/
theorem gone_cons_missing (hr : resolve target = .ok p) (he : d.exists? p = .ok false) :
    Gone resolve d (target :: rest) place ↔ Gone resolve d rest place := by
  constructor
  · rintro ⟨t, hm, q, hq, hd, hp⟩
    rcases List.mem_cons.mp hm with rfl | hm
    · rw [hr] at hq
      cases hq
      rw [he] at hd
      contradiction
    · exact ⟨t, hm, q, hq, hd, hp⟩
  · rintro ⟨t, hm, h⟩
    exact ⟨t, List.mem_cons_of_mem _ hm, h⟩

variable (hres : ∀ target p, resolve target = .ok p → p.IsNormal)
include hres

/-- After one that is there, only those count that it has left. -/
theorem gone_cons (hr : resolve target = .ok p) (he : d.exists? p = .ok true) :
    Gone resolve d (target :: rest) place ↔
      p.parts <+: place ∨ Gone resolve (d.drop p.parts) rest place := by
  constructor
  · rintro ⟨t, hm, q, hq, hd, hp⟩
    rcases List.mem_cons.mp hm with rfl | hm
    · rw [hr] at hq
      cases hq
      exact .inl hp
    · by_cases habove : p.parts <+: q.parts
      · exact .inl (habove.trans hp)
      · exact .inr ⟨t, hm, q, hq, (Disk.exists?_drop (hres t q hq)).mpr ⟨hd, .inr habove⟩, hp⟩
  · rintro (hp | ⟨t, hm, q, hq, hd, hp⟩)
    · exact ⟨target, List.mem_cons_self, p, hr, he, hp⟩
    · exact ⟨t, List.mem_cons_of_mem _ hm, q, hq, ((Disk.exists?_drop (hres t q hq)).mp hd).1, hp⟩

end Left

/-- What is left of a disk: nothing where targets lead that are there, but for the root, and
everything elsewhere. -/
structure Cleared (resolve : String → Except FileFault Path) (d : Disk) (targets : List String)
    (d' : Disk) : Prop where
  gone {place : Place} (hn : place ≠ []) (h : Gone resolve d targets place) : d'.node? place = none
  kept {place : Place} (h : place = [] ∨ ¬Gone resolve d targets place) :
    d'.node? place = d.node? place

theorem Cleared.missing (h : Cleared resolve d rest d') (hr : resolve target = .ok p)
    (he : d.exists? p = .ok false) : Cleared resolve d (target :: rest) d' where
  gone hn hg := h.gone hn ((gone_cons_missing hr he).mp hg)
  kept hk := h.kept (hk.imp_right fun hk hg => hk ((gone_cons_missing hr he).mpr hg))

/-- Whether there is something at the end of a path after the turns of some targets. -/
def There (resolve : String → Except FileFault Path) (d : Disk) (before : List String)
    (p : Path) : Prop :=
  d.exists? p = .ok true ∧ (p.parts = [] ∨ ¬Gone resolve d before p.parts)

/-- Whether a target is there at its turn, after those of some others, and is not the root. -/
def Goes (resolve : String → Except FileFault Path) (d : Disk) (before : List String)
    (target : String) : Prop :=
  ∃ p, resolve target = .ok p ∧ p.parts ≠ [] ∧ There resolve d before p

section Turns

variable (hres : ∀ target p, resolve target = .ok p → p.IsNormal)
include hres

theorem Cleared.drop (h : Cleared resolve (d.drop p.parts) rest d') (hr : resolve target = .ok p)
    (he : d.exists? p = .ok true) : Cleared resolve d (target :: rest) d' where
  gone {place} hn hg := by
    by_cases hlater : Gone resolve (d.drop p.parts) rest place
    · exact h.gone hn hlater
    · have hp := ((gone_cons hres hr he).mp hg).resolve_right hlater
      rw [h.kept (.inr hlater), Disk.node?_drop, if_pos ⟨hn, hp⟩]
  kept {place} hk := by
    have hk' : place = [] ∨ ¬Gone resolve (d.drop p.parts) rest place :=
      hk.imp_right fun hk hg => hk ((gone_cons hres hr he).mpr (.inr hg))
    rw [h.kept hk', Disk.node?_drop, if_neg]
    rintro ⟨hn, hp⟩
    exact hk.elim hn fun hk => hk ((gone_cons hres hr he).mpr (.inl hp))

theorem Removal.cleared (h : Removal resolve d targets failures d') :
    Cleared resolve d targets d' := by
  induction h with
  | done d => exact ⟨fun _ hg => absurd hg not_gone_nil, fun _ => rfl⟩
  | dropped hr he _ _ ih => exact ih.drop hres hr he
  | root hr he _ _ ih => exact ih.drop hres hr he
  | missing hr he _ ih => exact ih.missing hr he

theorem there_cons {first : String} (hp : p.IsNormal) (hr : resolve first = .ok q)
    (he : d.exists? q = .ok true) :
    There resolve (d.drop q.parts) rest p ↔ There resolve d (first :: rest) p := by
  rw [There, There, Disk.exists?_drop hp, gone_cons hres hr he, not_or, or_and_left, and_assoc]

/-- What is there after some turns. -/
theorem Removal.exists?_iff (h : Removal resolve d targets failures d') (hp : p.IsNormal) :
    d'.exists? p = .ok true ↔ There resolve d targets p := by
  induction h with
  | done d => exact (and_iff_left (.inr not_gone_nil)).symm
  | dropped hr he _ _ ih => exact ih.trans (there_cons hres hp hr he)
  | root hr he _ _ ih => exact ih.trans (there_cons hres hp hr he)
  | missing hr he _ ih => rw [ih, There, There, gone_cons_missing hr he]

theorem goes_cons {first : String} (hr : resolve first = .ok q) (he : d.exists? q = .ok true) :
    Goes resolve (d.drop q.parts) before target ↔ Goes resolve d (first :: before) target :=
  exists_congr fun p => and_congr_right fun hp => and_congr_right fun _ =>
    there_cons hres (hres target p hp) hr he

/-- There are no complaints if every target goes at its turn. -/
theorem Removal.eq_nil_iff (h : Removal resolve d targets failures d') :
    failures = [] ↔ ∀ before target after, targets = before ++ target :: after →
      Goes resolve d before target := by
  induction h with
  | done d => simp
  | dropped hr he hn _ ih =>
      rename_i first q rest failures _
      rw [ih]
      constructor
      · intro hall before target after ht
        cases before with
        | nil =>
            cases ht
            exact ⟨q, hr, hn, he, .inr not_gone_nil⟩
        | cons b before =>
            cases ht
            exact (goes_cons hres hr he).mp (hall before target after rfl)
      · intro hall before target after ht
        exact (goes_cons hres hr he).mpr (hall (first :: before) target after (by rw [ht]; rfl))
  | root hr he hn _ _ =>
      refine iff_of_false (List.cons_ne_nil _ _) fun hall => ?_
      obtain ⟨q, hq, hne, -⟩ := hall [] _ _ rfl
      rw [hr] at hq
      cases hq
      exact hne hn
  | missing hr he _ _ =>
      refine iff_of_false (List.cons_ne_nil _ _) fun hall => ?_
      obtain ⟨q, hq, -, hd, -⟩ := hall [] _ _ rfl
      rw [hr] at hq
      cases hq
      rw [he] at hd
      contradiction

end Turns

/-- The turns of some targets come before those of the others. -/
theorem Removal.split {after : List String} (h : Removal resolve d (before ++ after) failures d') :
    ∃ fs fs' d₁, Removal resolve d before fs d₁ ∧ Removal resolve d₁ after fs' d' ∧
      failures = fs ++ fs' := by
  induction before generalizing d failures with
  | nil => exact ⟨[], failures, d, .done d, h, rfl⟩
  | cons target rest ih =>
      cases h with
      | dropped hr he hn h =>
          obtain ⟨fs, fs', d₁, hb, ha, rfl⟩ := ih h
          exact ⟨fs, fs', d₁, .dropped hr he hn hb, ha, rfl⟩
      | root hr he hn h =>
          obtain ⟨fs, fs', d₁, hb, ha, rfl⟩ := ih h
          exact ⟨_, fs', d₁, .root hr he hn hb, ha, rfl⟩
      | missing hr he h =>
          obtain ⟨fs, fs', d₁, hb, ha, rfl⟩ := ih h
          exact ⟨_, fs', d₁, .missing hr he hb, ha, rfl⟩

/-! ## Calls -/

/-- What a call says after some complaints. -/
def verdict (failures : List String) : Result :=
  if failures = [] then .success "Deletion completed successfully."
  else .failure (Text.joinLines failures)

section Calls

variable {x : Session} {s : Shell} {name : String}

theorem resolve_isNormal (hn : x.cwd.IsNormal) (target : String) (p : Path)
    (h : x.resolve target = .ok p) : p.IsNormal :=
  hn.resolve h

/-- A target cannot be looked up if it names an account that the system cannot take, or if its path
is too long. -/
theorem Unseen.cause (h : Unseen x.resolve d target f) :
    (∃ account, NamesAccount target account ∧
      FileFault.ofName? (String.ofList account) = some f) ∨
    ∃ p, x.resolve target = .ok p ∧ Overlong p ∧ f = .system .nameTooLong p.text := by
  rcases h with h | ⟨p, hp, he⟩
  · exact .inl (Path.resolve_eq_error.mp h)
  · exact .inr ⟨p, hp, Disk.exists?_eq_error he⟩

variable (hf : s.registry.find? name = some Builtin.rm) (ht : targets ≠ [])
include hf ht

theorem dispatch_rm_ok
    (h : removeAll s.session.resolve s.session.disk targets = (.ok failures, d')) :
    Stack.dispatch none ⟨name, targets⟩ s =
      (.ok (verdict failures), { s with session := { s.session with disk := d' } }) := by
  rw [Stack.dispatch_action hf (by decide) rfl, remove, if_neg (by simpa using ht), h]
  cases failures <;> rfl

theorem dispatch_rm_error
    (h : removeAll s.session.resolve s.session.disk targets = (.error f, d')) :
    Stack.dispatch none ⟨name, targets⟩ s =
      (Result.ofFault (.file f), { s with session := { s.session with disk := d' } }) := by
  rw [Stack.dispatch_action hf (by decide) rfl, remove, if_neg (by simpa using ht), h]
  rfl

end Calls

/-- Targets have their turns from left to right, up to the first that cannot be looked up, and the
call complains about those that failed. -/
theorem removed_in_turn {name : String} {s : Shell}
    (hf : s.registry.find? name = some Builtin.rm) (hn : s.session.cwd.IsNormal) :
    let resolve := s.session.resolve
    let d := s.session.disk
    let left := fun d' : Disk => { s with session := { s.session with disk := d' } }
    (∀ targets, targets ≠ [] →
      (∃ failures d', Removal resolve d targets failures d' ∧
        Stack.dispatch none ⟨name, targets⟩ s = (.ok (verdict failures), left d')) ∨
      ∃ before target after failures d' f, targets = before ++ target :: after ∧
        Removal resolve d before failures d' ∧ Unseen resolve d' target f ∧
        Stack.dispatch none ⟨name, targets⟩ s = (Result.ofFault (.file f), left d')) ∧
    (∀ d' target f, Unseen resolve d' target f →
      (∃ account, NamesAccount target account ∧
        FileFault.ofName? (String.ofList account) = some f) ∨
      ∃ p, resolve target = .ok p ∧ Overlong p ∧ f = .system .nameTooLong p.text) ∧
    (∀ targets failures d', Removal resolve d targets failures d' →
      Cleared resolve d targets d' ∧
      (failures = [] ↔ ∀ before target after, targets = before ++ target :: after →
        Goes resolve d before target) ∧
      ∀ before target after p, targets = before ++ target :: after → resolve target = .ok p →
        ∃ fs fs' d₁, Removal resolve d before fs d₁ ∧
          Removal resolve d₁ (target :: after) fs' d' ∧ failures = fs ++ fs' ∧
          (d₁.exists? p = .ok true ↔ There resolve d before p)) := by
  intro resolve d left
  have hres := resolve_isNormal hn
  refine ⟨fun targets ht => ?_, fun d' target f h => h.cause, fun targets failures d' h => ?_⟩
  · rcases removeAll_removal hres d targets with ⟨failures, d', h, hv⟩ |
      ⟨before, target, after, failures, d', f, hs, h, hu, hv⟩
    · exact .inl ⟨failures, d', h, dispatch_rm_ok hf ht hv⟩
    · exact .inr ⟨before, target, after, failures, d', f, hs, h, hu, dispatch_rm_error hf ht hv⟩
  · refine ⟨h.cleared hres, h.eq_nil_iff hres, ?_⟩
    rintro before target after p rfl hp
    obtain ⟨fs, fs', d₁, hb, ha, hfs⟩ := h.split
    exact ⟨fs, fs', d₁, hb, ha, hfs, hb.exists?_iff hres (hn.resolve hp)⟩

/-- A shell that can remove files, on a disk with one. -/
def withFile : Shell :=
  let s := Shell.bare (Registry.empty.register Builtin.rm) 3
  { s with session := { s.session with disk := Disk.empty.put ["f"] (.file .empty false) } }

/-- A file that is removed twice is not there the second time. -/
theorem removed_in_turn_twice :
    (withFile.registry.find? "rm" = some Builtin.rm ∧ withFile.session.cwd.IsNormal) ∧
    ∃ failures d', failures ≠ [] ∧ Stack.dispatch none ⟨"rm", ["f", "f"]⟩ withFile =
      (.ok (verdict failures),
        { withFile with session := { withFile.session with disk := d' } }) := by
  have hf : withFile.registry.find? "rm" = some Builtin.rm := rfl
  have hn : withFile.session.cwd.IsNormal := Path.isNormal_root
  have hp : withFile.session.resolve "f" = .ok ⟨.slash, ["f"]⟩ := by decide
  obtain ⟨hcall, hcause, hturns⟩ := removed_in_turn hf hn
  have hseen : ∀ d' f, ¬Unseen withFile.session.resolve d' "f" f := by
    intro d' f hu
    rcases hcause d' "f" f hu with ⟨account, ⟨rest, hr, -⟩, -⟩ | ⟨p, hr, hlong, -⟩
    · exact absurd (List.cons.inj hr).1 (by decide)
    · rw [hp] at hr
      cases hr
      rcases hlong with hlong | ⟨name, hm, hlong⟩
      · exact absurd hlong (by decide)
      · obtain rfl := List.mem_singleton.mp hm
        exact absurd hlong (by decide)
  refine ⟨⟨hf, hn⟩, ?_⟩
  rcases hcall ["f", "f"] (by decide) with ⟨failures, d', h, hv⟩ |
    ⟨before, target, after, failures, d', f, hs, -, hu, -⟩
  · refine ⟨failures, d', fun he => ?_, hv⟩
    obtain ⟨p, hr, hnot, he, hgone⟩ := (hturns _ _ _ h).2.1.mp he ["f"] "f" [] rfl
    exact hgone.elim hnot fun hgone =>
      hgone ⟨"f", List.mem_cons_self, p, hr, he, List.prefix_rfl⟩
  · have hm : target ∈ ["f", "f"] := hs ▸ List.mem_append_right _ List.mem_cons_self
    obtain rfl : target = "f" := by simpa using hm
    exact absurd hu (hseen d' f)

/-- After a target with a name that is too long, what is there does not have its turn. -/
theorem removeAll_long (d : Disk) {name : String} (hr : resolve name = .ok ⟨.slash, [name]⟩)
    (hu : name ≠ "..") (hn : FileFault.ofName? ("/" ++ name) = none)
    (hp : Text.nameSize ("/" ++ name) ≤ Disk.maxPath) (hl : Disk.maxName < Text.nameSize name) :
    removeAll resolve d (name :: rest) = (.error (.system .nameTooLong ("/" ++ name)), d) := by
  simp only [removeAll, hr, removeAt, Disk.exists?_of_long d hu hn hp hl]

/-- A file that is there stays after a target with a name of 256 letters. -/
theorem overlong_ends_turns :
    let name := String.ofList (List.replicate 256 'a')
    withFile.session.resolve "f" = .ok ⟨.slash, ["f"]⟩ ∧
      withFile.session.disk.exists? ⟨.slash, ["f"]⟩ = .ok true ∧
      Stack.dispatch none ⟨"rm", [name, "f"]⟩ withFile =
        (Result.ofFault (.file (.system .nameTooLong ("/" ++ name))), withFile) := by
  intro name
  have hc : name.toList = List.replicate 256 'a' := String.toList_ofList
  have hc' : ("/" ++ name).toList = '/' :: List.replicate 256 'a' := by
    rw [String.toList_append, hc]
    rfl
  clear_value name
  have hne : ∀ other : String, List.replicate 256 'a' ≠ other.toList → name ≠ other :=
    fun other h he => h (hc ▸ congrArg String.toList he)
  have hu : name ≠ ".." := hne _ (by decide)
  have hr : withFile.session.resolve name = .ok ⟨.slash, [name]⟩ := by
    have hslash : '/' ∉ name.toList := by
      rw [hc]
      decide
    exact Path.resolve_of_isPart Path.isNormal_root
      ⟨hne _ (by decide), hne _ (by decide), hslash⟩
      ⟨'a', List.replicate 255 'a', hc, by decide, by decide⟩ hu
  have hn : FileFault.ofName? ("/" ++ name) = none := by
    rw [FileFault.ofName?, hc']
    decide +kernel
  have hp : Text.nameSize ("/" ++ name) ≤ Disk.maxPath := by
    rw [Text.nameSize, hc']
    decide +kernel
  have hl : Disk.maxName < Text.nameSize name := by
    rw [Text.nameSize, hc]
    decide +kernel
  refine ⟨by decide, by decide, ?_⟩
  exact dispatch_rm_error rfl (by simp) (removeAll_long _ hr hu hn hp hl)

end CommandShell.Builtin.File
