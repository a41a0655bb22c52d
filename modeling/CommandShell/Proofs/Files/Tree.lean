import CommandShell.Proofs.OrderedMap
import CommandShell.Files.Disk

/-!
A disk as a tree. Where a path leads depends on the directories that it passes through, so it leads
there still if more are made, and a new node at its end has a directory above it.
-/

namespace CommandShell.Disk

variable {d d' : Disk} {here place : Place} {there : Option Place} {names parts : List String}
  {name : String} {root : Path.Root} {p : Path}

/-! ## Where paths lead -/

/-- Where the parts of a path lead, however long it is. -/
def follow (d : Disk) (root : Path.Root) (parts : List String) : Except Errno (Option Place) :=
  if root = .relative then d.walkLost d.lost d.start parts else (d.walk [] parts).map some

theorem locate_eq (d : Disk) (p : Path) :
    d.locate p =
      if Text.nameSize p.text > maxPath then .error .nameTooLong else d.follow p.root p.parts := by
  rw [locate, follow]
  by_cases hr : p.root = .relative <;> simp [Path.isAbsolute, hr]

theorem follow_of_locate (h : d.locate p = .ok there) : d.follow p.root p.parts = .ok there := by
  rw [locate_eq] at h
  split at h
  · contradiction
  · exact h

/-- The place that a name leads to from a directory. -/
def next (here : Place) (name : String) : Place :=
  if name = ".." then here.dropLast else here ++ [name]

theorem walk_cons_eq_ok :
    d.walk here (name :: names) = .ok place ↔
      d.node? here = some .directory ∧ (name = ".." ∨ Text.nameSize name ≤ maxName) ∧
        d.walk (next here name) names = .ok place := by
  rw [walk_cons, next]
  rcases d.node? here with _ | _ | _
  · simp
  · by_cases hu : name = ".."
    · simp [hu]
    · by_cases hl : Text.nameSize name ≤ maxName
      · simp [hu, hl, Nat.not_lt.mpr hl]
      · simp [hu, hl, Nat.lt_of_not_le hl]
  · simp

/-! ## Directories that stay -/

/-- The directories of a disk, those that are lost included, are there on another one too. -/
structure Grows (d d' : Disk) : Prop where
  start : d'.start = d.start
  lost : d'.lost = d.lost
  directory : ∀ place, d.node? place = some .directory → d'.node? place = some .directory

theorem Grows.trans {d'' : Disk} (h : Grows d d') (h' : Grows d' d'') : Grows d d'' where
  start := h'.start.trans h.start
  lost := h'.lost.trans h.lost
  directory place hd := h'.directory place (h.directory place hd)

theorem Grows.walk (h : Grows d d') (hw : d.walk here names = .ok place) :
    d'.walk here names = .ok place := by
  induction names generalizing here with
  | nil => exact hw
  | cons name rest ih =>
      obtain ⟨hd, hl, hrest⟩ := walk_cons_eq_ok.mp hw
      exact walk_cons_eq_ok.mpr ⟨h.directory here hd, hl, ih hrest⟩

theorem Grows.walkLost (h : Grows d d') {lost : Nat}
    (hw : d.walkLost lost here names = .ok there) : d'.walkLost lost here names = .ok there := by
  fun_induction d.walkLost lost here names with
  | case1 here names =>
      cases hn : d.walk here names with
      | error e => simp [hn, Except.map] at hw
      | ok place =>
          rw [hn] at hw
          rw [Disk.walkLost, h.walk hn]
          exact hw
  | case2 => exact hw
  | case3 lost here rest ih =>
      rw [Disk.walkLost, if_pos rfl]
      exact ih hw
  | case4 => contradiction

theorem Grows.follow (h : Grows d d') (hf : d.follow root parts = .ok there) :
    d'.follow root parts = .ok there := by
  rw [Disk.follow] at hf ⊢
  split at hf
  · next hr =>
      rw [if_pos hr, h.start, h.lost]
      exact h.walkLost hf
  · next hr =>
      rw [if_neg hr]
      cases hw : d.walk [] parts with
      | error e => simp [hw, Except.map] at hf
      | ok place =>
          rw [hw] at hf
          rw [h.walk hw]
          exact hf

theorem Grows.locate (h : Grows d d') (hl : d.locate p = .ok there) :
    d'.locate p = .ok there := by
  rw [locate_eq] at hl ⊢
  split at hl
  · contradiction
  · next hlen =>
      rw [if_neg hlen]
      exact h.follow hl

/-! ## Nodes at places -/

/-- A place at which there is no directory. -/
def Free (d : Disk) (place : Place) : Prop :=
  d.node? place ≠ some .directory

theorem Free.ne_nil (h : d.Free place) : place ≠ [] := by
  rintro rfl
  exact h rfl

theorem node?_put (h : place ≠ []) (node : Node) : (d.put place node).node? place = some node := by
  rw [node?, if_neg h]
  exact d.nodes.get?_insert_self

theorem node?_put_of_ne {node : Node} {place' : Place} (h : place' ≠ place) :
    (d.put place node).node? place' = d.node? place' := by
  rw [node?, node?, put]
  simp only [d.nodes.get?_insert_of_ne (Ne.symm h)]

theorem node?_move_of_ne {node : Node} {here there place' : Place} (h : place' ≠ here)
    (h' : place' ≠ there) :
    (({ d with nodes := d.nodes.erase here } : Disk).put there node).node? place' =
      d.node? place' := by
  rw [node?_put_of_ne h', node?, node?]
  simp only [d.nodes.get?_erase_of_ne (Ne.symm h)]

theorem node?_move_from {node : Node} {here there : Place} (hn : here ≠ []) (h : here ≠ there) :
    (({ d with nodes := d.nodes.erase here } : Disk).put there node).node? here = none := by
  rw [node?_put_of_ne h, node?, if_neg hn]
  exact d.nodes.get?_erase_self

theorem Free.grows_put (h : d.Free place) (node : Node) : Grows d (d.put place node) where
  start := rfl
  lost := rfl
  directory place' hd := by
    have hne : place' ≠ place := fun he => h (he ▸ hd)
    rwa [node?_put_of_ne hne]

/-- Moving something that is no directory. -/
theorem Free.grows_move (hf : d.Free here) (h : d.Free place) (node : Node) :
    Grows d (({ d with nodes := d.nodes.erase here } : Disk).put place node) where
  start := rfl
  lost := rfl
  directory place' hd := by
    have hne : place' ≠ here := fun he => hf (he ▸ hd)
    have hne' : place' ≠ place := fun he => h (he ▸ hd)
    rwa [node?_move_of_ne hne hne']

/-! ## Trees -/

/-- Whether everything is in a directory, and relative paths begin in one as far as it is there. -/
structure Rooted (d : Disk) : Prop where
  above {place : Place} (h : d.node? place ≠ none) : d.node? place.dropLast = some .directory
  start : d.node? (d.start.take (d.start.length - d.lost)) = some .directory

theorem rooted_empty : Disk.empty.Rooted where
  above {place} h := by
    rw [node?] at h
    split at h
    · next hn => rw [hn]; rfl
    · exact absurd rfl h
  start := rfl

namespace Rooted

variable (hr : d.Rooted)
include hr

theorem above_of_directory (h : d.node? here = some .directory) :
    d.node? here.dropLast = some .directory :=
  hr.above (by simp [h])

theorem node?_append (h : d.node? here = none) (names : List String) :
    d.node? (here ++ names) = none := by
  induction names generalizing here with
  | nil => rwa [List.append_nil]
  | cons name rest ih =>
      rw [List.append_cons]
      refine ih ?_
      cases hn : d.node? (here ++ [name]) with
      | none => rfl
      | some node =>
          have hd := hr.above (by simp [hn] : d.node? (here ++ [name]) ≠ none)
          rw [List.dropLast_concat, h] at hd
          contradiction

/-- A walk stays inside directories, also where it leads up. -/
theorem walk (hh : d.node? here.dropLast = some .directory)
    (hw : d.walk here names = .ok place) : d.node? place.dropLast = some .directory := by
  induction names generalizing here with
  | nil =>
      cases hw
      exact hh
  | cons name rest ih =>
      obtain ⟨hd, -, hrest⟩ := walk_cons_eq_ok.mp hw
      refine ih ?_ hrest
      rw [next]
      split
      · exact hr.above_of_directory hh
      · rwa [List.dropLast_concat]

theorem walkLost {lost : Nat}
    (hh : d.node? (here.take (here.length - lost)) = some .directory)
    (hw : d.walkLost lost here names = .ok (some place)) :
    d.node? place.dropLast = some .directory := by
  fun_induction d.walkLost lost here names with
  | case1 here names =>
      rw [Nat.sub_zero, List.take_length] at hh
      cases hn : d.walk here names with
      | error e => simp [hn, Except.map] at hw
      | ok place' =>
          rw [hn] at hw
          cases hw
          exact hr.walk (hr.above_of_directory hh) hn
  | case2 => cases hw
  | case3 lost here rest ih =>
      refine ih ?_ hw
      rw [List.dropLast_eq_take, List.take_take, List.length_take]
      rwa [show min (min (here.length - 1) here.length - lost) (here.length - 1) =
        here.length - (lost + 1) by omega]
  | case4 => contradiction

/-- What a path names, or may come to name, is in a directory. -/
theorem locate (hl : d.locate p = .ok (some place)) :
    d.node? place.dropLast = some .directory := by
  have hf := follow_of_locate hl
  rw [follow] at hf
  split at hf
  · exact hr.walkLost hr.start hf
  · cases hw : d.walk [] p.parts with
    | error e => simp [hw, Except.map] at hf
    | ok place' =>
        rw [hw] at hf
        cases hf
        exact hr.walk rfl hw

theorem of_grows (hg : Grows d d')
    (h : ∀ place, d'.node? place ≠ none → d.node? place.dropLast = some .directory) :
    d'.Rooted where
  above hn := hg.directory _ (h _ hn)
  start := by
    rw [hg.start, hg.lost]
    exact hg.directory _ hr.start

theorem put (hf : d.Free place) (hd : d.node? place.dropLast = some .directory) (node : Node) :
    (d.put place node).Rooted := by
  refine hr.of_grows (hf.grows_put node) fun place' hn => ?_
  by_cases he : place' = place
  · exact he ▸ hd
  · rw [node?_put_of_ne he] at hn
    exact hr.above hn

theorem move (hh : d.Free here) (hf : d.Free place)
    (hd : d.node? place.dropLast = some .directory) (node : Node) :
    (({ d with nodes := d.nodes.erase here } : Disk).put place node).Rooted := by
  refine hr.of_grows (hh.grows_move hf node) fun place' hn => ?_
  by_cases he : place' = place
  · exact he ▸ hd
  · by_cases he' : place' = here
    · rw [he', node?_move_from hh.ne_nil (he' ▸ he)] at hn
      contradiction
    · rw [node?_move_of_ne he' he] at hn
      exact hr.above hn

end Rooted

end CommandShell.Disk
