import CommandShell.Proofs.Files.Frame
import CommandShell.Proofs.Files.Resolution

/-!
Places that are dropped with everything below them. A normal path leads to its own parts, and on a
disk with a place less it does so unless the place is on its way.
-/

namespace CommandShell.Disk

variable {d d' : Disk} {here place : Place} {names : List String} {p : Path} {f : FileFault}

/-! ## Dropping -/

theorem node?_drop (d : Disk) (place here : Place) :
    (d.drop place).node? here = if here ≠ [] ∧ place <+: here then none else d.node? here := by
  by_cases hn : here = []
  · simp [node?, hn]
  · rw [node?, if_neg hn, node?, if_neg hn, drop, OrderedMap.get?_filterKeys]
    by_cases hp : place <+: here
    · have hb : place.isPrefixOf here = true := List.isPrefixOf_iff_prefix.mpr hp
      simp [hb, hn, hp]
    · have hb : place.isPrefixOf here = false :=
        Bool.eq_false_iff.mpr fun h => hp (List.isPrefixOf_iff_prefix.mp h)
      simp [hb, hp]

theorem node?_drop_elsewhere (h : ¬place <+: here) : (d.drop place).node? here = d.node? here := by
  rw [node?_drop, if_neg fun hp => h hp.2]

/-- A way down that does not come past the place is as it was. -/
theorem walk_drop (hu : ".." ∉ names) (h : ¬place <+: here ++ names) :
    (d.drop place).walk here names = d.walk here names := by
  induction names generalizing here with
  | nil => rfl
  | cons name rest ih =>
      rw [List.mem_cons, not_or] at hu
      have hhere : ¬place <+: here := fun hp => h (hp.trans (List.prefix_append _ _))
      rw [walk_cons, walk_cons, node?_drop_elsewhere hhere, if_neg (Ne.symm hu.1),
        if_neg (Ne.symm hu.1), ih hu.2 (by rwa [List.append_assoc])]

/-! ## Normal paths -/

/-- A normal path leads to its parts, if it leads anywhere. -/
theorem locate_of_isNormal (hp : p.IsNormal) {there : Option Place} (h : d.locate p = .ok there) :
    there = some p.parts := by
  rw [locate] at h
  split at h
  · contradiction
  · rw [if_pos hp.absolute] at h
    cases hw : d.walk [] p.parts with
    | error e =>
        rw [hw] at h
        contradiction
    | ok place =>
        rw [hw] at h
        rw [← Except.ok.inj h, walk_down hp.up hw]
        rfl

theorem exists?_eq_true_iff (hp : p.IsNormal) :
    d.exists? p = .ok true ↔
      FileFault.ofName? p.text = none ∧ d.locate p = .ok (some p.parts) ∧
        d.node? p.parts ≠ none := by
  constructor
  · intro h
    rw [exists?, probe, find] at h
    split at h
    · contradiction
    · rename_i hn
      refine ⟨by simpa using hn, ?_⟩
      cases hl : d.locate p with
      | error e =>
          cases e <;> simp [hl] at h
      | ok there =>
          obtain rfl := locate_of_isNormal hp hl
          refine ⟨rfl, fun hnone => ?_⟩
          rw [hl] at h
          simp [nodeAt, hnone] at h
  · rintro ⟨hn, hl, hnode⟩
    obtain ⟨node, hnode⟩ := Option.ne_none_iff_exists'.mp hnode
    exact exists?_of_locate hn hl hnode

theorem exists?_drop_elsewhere (hp : p.IsNormal) (h : p.parts = [] ∨ ¬place <+: p.parts) :
    (d.drop place).exists? p = .ok true ↔ d.exists? p = .ok true := by
  have hl : (d.drop place).locate p = d.locate p := by
    rw [locate, locate, if_pos hp.absolute, if_pos hp.absolute]
    rcases h with h | h
    · rw [h]
      rfl
    · rw [walk_drop hp.up (by simpa using h)]
  have hn : (d.drop place).node? p.parts = d.node? p.parts := by
    rw [node?_drop, if_neg fun hd => h.elim hd.1 fun h => h hd.2]
  rw [exists?_eq_true_iff hp, exists?_eq_true_iff hp, hl, hn]

/-- A path has something at its end on a disk with a place less if it had before, and the place is
not on its way. The root is always there. -/
theorem exists?_drop (hp : p.IsNormal) :
    (d.drop place).exists? p = .ok true ↔
      d.exists? p = .ok true ∧ (p.parts = [] ∨ ¬place <+: p.parts) := by
  by_cases h : p.parts = [] ∨ ¬place <+: p.parts
  · rw [exists?_drop_elsewhere hp h, and_iff_left h]
  · refine iff_of_false (fun he => ?_) fun he => h he.2
    rw [not_or, not_not] at h
    exact ((exists?_eq_true_iff hp).mp he).2.2 (by rw [node?_drop, if_pos h])

/-- There are no links: what is asked is only whether the path can be looked up. -/
theorem isLink_eq (d : Disk) (p : Path) : d.isLink p = (d.exists? p).map fun _ => false := by
  rw [isLink, exists?, probe, probe]
  split
  · rfl
  · split <;> rfl

/-- What is there is dropped, but for the root, where nothing else is left. -/
theorem delete_of_exists (hp : p.IsNormal) (he : d.exists? p = .ok true) :
    d.delete p =
      if p.parts = [] then (.error (.system .busy p.text), d.drop [])
      else (.ok (), d.drop p.parts) := by
  obtain ⟨hn, hl, hnode⟩ := (exists?_eq_true_iff hp).mp he
  obtain ⟨node, hnode⟩ := Option.ne_none_iff_exists'.mp hnode
  have hlink : d.isLink p = .ok false := by rw [isLink_eq, he]; rfl
  have hdir : d.isDirectory p = .ok node.isDirectory := by
    simp [isDirectory, probe, hn, find, hl, nodeAt, hnode]
  rw [delete, hdir, hlink]
  cases node with
  | directory => simp only [Node.isDirectory, removeTree, need_of_locate hn hl hnode]
  | file content executable =>
      have hne : p.parts ≠ [] := by
        intro h
        rw [h, node?, if_pos rfl] at hnode
        cases hnode
      simp only [Node.isDirectory, unlink, need_of_locate hn hl hnode, if_neg hne]

/-! ## Names that are too long -/

theorem walk_eq_error {e : Errno} (h : d.walk here names = .error e) :
    e = .noEntry ∨ e = .notDirectory ∨
      e = .nameTooLong ∧ ∃ name ∈ names, maxName < Text.nameSize name := by
  induction names generalizing here with
  | nil => contradiction
  | cons name rest ih =>
      have hrest : ∀ {here}, d.walk here rest = .error e → e = .noEntry ∨ e = .notDirectory ∨
          e = .nameTooLong ∧ ∃ part ∈ name :: rest, maxName < Text.nameSize part := by
        intro here h
        rcases ih h with h | h | ⟨h, part, hm, hl⟩
        · exact .inl h
        · exact .inr (.inl h)
        · exact .inr (.inr ⟨h, part, List.mem_cons_of_mem _ hm, hl⟩)
      rw [walk_cons] at h
      split at h
      · cases h
        exact .inl rfl
      · cases h
        exact .inr (.inl rfl)
      · split at h
        · exact hrest h
        · split at h
          · rename_i hl
            cases h
            exact .inr (.inr ⟨rfl, name, List.mem_cons_self, hl⟩)
          · exact hrest h

/-- A path holds a name that is too long, or is too long as a whole. -/
def Overlong (p : Path) : Prop :=
  maxPath < Text.nameSize p.text ∨ ∃ name ∈ p.parts, maxName < Text.nameSize name

theorem walkLost_eq_error {e : Errno} {lost : Nat} (h : d.walkLost lost here names = .error e) :
    e = .noEntry ∨ e = .notDirectory ∨
      e = .nameTooLong ∧ ∃ name ∈ names, maxName < Text.nameSize name := by
  induction lost generalizing here names with
  | zero =>
      cases hw : d.walk here names with
      | error e' =>
          rw [walkLost, hw] at h
          cases h
          exact walk_eq_error hw
      | ok place =>
          rw [walkLost, hw] at h
          contradiction
  | succ lost ih =>
      cases names with
      | nil => contradiction
      | cons name rest =>
          rw [walkLost] at h
          split at h
          · rcases ih h with h | h | ⟨h, part, hm, hl⟩
            · exact .inl h
            · exact .inr (.inl h)
            · exact .inr (.inr ⟨h, part, List.mem_cons_of_mem _ hm, hl⟩)
          · cases h
            exact .inl rfl

theorem locate_eq_error {e : Errno} (h : d.locate p = .error e) :
    e = .noEntry ∨ e = .notDirectory ∨ e = .nameTooLong ∧ Overlong p := by
  rw [locate] at h
  split at h
  · rename_i hlong
    cases h
    exact .inr (.inr ⟨rfl, .inl hlong⟩)
  · split at h
    · cases hw : d.walk [] p.parts with
      | error e' =>
          rw [hw] at h
          cases h
          exact (walk_eq_error hw).imp_right fun h => h.imp_right fun h => ⟨h.1, .inr h.2⟩
      | ok place =>
          rw [hw] at h
          contradiction
    · exact (walkLost_eq_error h).imp_right fun h => h.imp_right fun h => ⟨h.1, .inr h.2⟩

/-- Only this keeps a path from being looked up. -/
theorem exists?_eq_error (h : d.exists? p = .error f) :
    Overlong p ∧ f = .system .nameTooLong p.text := by
  have hf : ∀ e, d.find p = .error e → e = .noEntry ∨ e = .notDirectory ∨
      e = .nameTooLong ∧ Overlong p := by
    intro e he
    rw [find] at he
    split at he
    · rename_i hl
      cases he
      exact locate_eq_error hl
    · split at he
      · cases he
        exact .inl rfl
      · contradiction
  rw [exists?, probe] at h
  split at h
  · contradiction
  · split at h
    · contradiction
    · contradiction
    · contradiction
    · rename_i e hno hdir he
      cases h
      rcases hf e he with rfl | rfl | ⟨rfl, hlong⟩
      · exact absurd rfl hno
      · exact absurd rfl hdir
      · exact ⟨hlong, rfl⟩

/-- In the root a name that is too long cannot be looked up, whatever is there. -/
theorem exists?_of_long (d : Disk) {name : String} (hu : name ≠ "..")
    (hn : FileFault.ofName? ("/" ++ name) = none) (hp : Text.nameSize ("/" ++ name) ≤ maxPath)
    (hl : maxName < Text.nameSize name) :
    d.exists? ⟨.slash, [name]⟩ = .error (.system .nameTooLong ("/" ++ name)) := by
  have ht : (⟨.slash, [name]⟩ : Path).text = "/" ++ name := by simp [Path.text, Path.Root.text]
  have hw : d.walk [] [name] = .error .nameTooLong := by
    rw [walk_cons, if_neg hu, if_pos hl]
    rfl
  simp [exists?, probe, find, locate, ht, hn, Nat.not_lt.mpr hp, Path.isAbsolute, hw, Except.map]

end CommandShell.Disk
