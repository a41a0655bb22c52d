import CommandShell.Proofs.Files.Replace

/-!
What the operations on files leave alone. Making directories adds directories along a path and does
nothing else, and a file that is written or moved touches its own places only. Siblings have
different ones.
-/

namespace CommandShell.Disk

variable {d d' d'' : Disk} {here place : Place} {there : Option Place} {names parts : List String}
  {name : String} {root : Path.Root} {p : Path}

/-! ## Siblings -/

/-- The last name leads to a place in the directory to which the others lead. -/
theorem walk_concat (hu : name ≠ "..") (h : d.walk here (names ++ [name]) = .ok place) :
    ∃ dir, d.walk here names = .ok dir ∧ place = dir ++ [name] := by
  induction names generalizing here with
  | nil =>
      obtain ⟨-, -, hw⟩ := walk_cons_eq_ok.mp h
      rw [next, if_neg hu] at hw
      exact ⟨here, rfl, (Except.ok.inj hw).symm⟩
  | cons first rest ih =>
      obtain ⟨hd, hl, hw⟩ := walk_cons_eq_ok.mp h
      obtain ⟨dir, hr, hp⟩ := ih hw
      exact ⟨dir, walk_cons_eq_ok.mpr ⟨hd, hl, hr⟩, hp⟩

theorem walkLost_concat {lost : Nat} (hu : name ≠ "..")
    (h : d.walkLost lost here (names ++ [name]) = .ok there) :
    ∃ dir, d.walkLost lost here names = .ok (some dir) ∧ there = some (dir ++ [name]) := by
  induction lost generalizing here names with
  | zero =>
      rw [walkLost] at h
      cases hw : d.walk here (names ++ [name]) with
      | error e => simp [hw, Except.map] at h
      | ok place =>
          obtain ⟨dir, hd, rfl⟩ := walk_concat hu hw
          rw [hw] at h
          refine ⟨dir, ?_, (Except.ok.inj h).symm⟩
          rw [walkLost, hd]
          rfl
  | succ lost ih =>
      cases names with
      | nil =>
          rw [List.nil_append, walkLost, if_neg hu] at h
          contradiction
      | cons first rest =>
          rw [List.cons_append, walkLost] at h
          split at h
          · next hf =>
              rw [walkLost, if_pos hf]
              exact ih h
          · contradiction

theorem follow_concat (hu : name ≠ "..") (h : d.follow root (parts ++ [name]) = .ok there) :
    ∃ dir, d.follow root parts = .ok (some dir) ∧ there = some (dir ++ [name]) := by
  rw [follow] at h ⊢
  split at h
  · next hr =>
      rw [if_pos hr]
      exact walkLost_concat hu h
  · next hr =>
      rw [if_neg hr]
      cases hw : d.walk [] (parts ++ [name]) with
      | error e => simp [hw, Except.map] at h
      | ok place =>
          obtain ⟨dir, hd, rfl⟩ := walk_concat hu hw
          rw [hw] at h
          exact ⟨dir, by rw [hd]; rfl, (Except.ok.inj h).symm⟩

/-- A path and its sibling lead to two names in one directory. -/
theorem locate_temporary_ne {there' : Option Place} (hn : p.name ≠ "") (hu : p.name ≠ "..")
    (h : d.locate p = .ok there) (h' : d.locate (Store.temporary p) = .ok there') :
    there' ≠ there := by
  have htmp : (p.name ++ ".tmp").length = p.name.length + 4 := by
    rw [String.length_append]
    rfl
  have hu' : p.name ++ ".tmp" ≠ ".." := by
    intro he
    have hup : "..".length = 2 := by decide
    rw [he] at htmp
    omega
  have hf := follow_of_locate h
  have hf' : d.follow p.root (p.parts.dropLast ++ [p.name ++ ".tmp"]) = .ok there' :=
    follow_of_locate h'
  rw [← Path.dropLast_concat_name hn] at hf
  obtain ⟨dir, hd, rfl⟩ := follow_concat hu hf
  obtain ⟨dir', hd', rfl⟩ := follow_concat hu' hf'
  rw [hd] at hd'
  cases hd'
  intro he
  rw [Option.some.injEq, List.append_right_inj, List.cons.injEq] at he
  rw [he.1] at htmp
  omega

/-! ## Making directories -/

/-- Whether a place has the node that it had, or has a directory now that had no node and is where
some parts of a path lead. -/
def KeptOrMade (root : Path.Root) (parts : List String) (d d' : Disk) (place : Place) : Prop :=
  d'.node? place = d.node? place ∨
    d.node? place = none ∧ d'.node? place = some .directory ∧
      ∃ leading, leading <+: parts ∧ d'.locate ⟨root, leading⟩ = .ok (some place)

/-- A disk that has some more directories than another, along a path, and is the same otherwise. -/
structure Deepens (root : Path.Root) (parts : List String) (d d' : Disk) : Prop where
  start : d'.start = d.start
  lost : d'.lost = d.lost
  node (place : Place) : KeptOrMade root parts d d' place
  rooted (hr : d.Rooted) : d'.Rooted

namespace Deepens

theorem refl (d : Disk) : Deepens root parts d d :=
  ⟨rfl, rfl, fun _ => .inl rfl, id⟩

theorem grows (h : Deepens root parts d d') : Grows d d' where
  start := h.start
  lost := h.lost
  directory place hd := by
    rcases h.node place with hn | ⟨hn, -⟩
    · exact hn.trans hd
    · rw [hd] at hn
      contradiction

theorem trans (h : Deepens root parts d d') (h' : Deepens root parts d' d'') :
    Deepens root parts d d'' where
  start := h'.start.trans h.start
  lost := h'.lost.trans h.lost
  node place := by
    rcases h.node place with hn | ⟨hn, hd, leading, hl, hloc⟩
    · rcases h'.node place with hn' | ⟨hn', hmade⟩
      · exact .inl (hn'.trans hn)
      · exact .inr ⟨hn.symm.trans hn', hmade⟩
    · exact .inr ⟨hn, h'.grows.directory place hd, leading, hl, h'.grows.locate hloc⟩
  rooted hr := h'.rooted (h.rooted hr)

theorem mono {more : List String} (h : Deepens root parts d d') (hp : parts <+: more) :
    Deepens root more d d' where
  start := h.start
  lost := h.lost
  node place := (h.node place).imp_right fun ⟨hn, hd, leading, hl, hloc⟩ =>
    ⟨hn, hd, leading, hl.trans hp, hloc⟩
  rooted := h.rooted

end Deepens

theorem KeptOrMade.of_eq (h : KeptOrMade root parts d d' place) (hg : Grows d' d'')
    (he : d''.node? place = d'.node? place) : KeptOrMade root parts d d'' place := by
  rcases h with h | ⟨hn, hm, leading, hl, hloc⟩
  · exact .inl (he.trans h)
  · exact .inr ⟨hn, he.trans hm, leading, hl, hg.locate hloc⟩

/-- A directory is made where there is nothing. -/
theorem makeDirectory_ok (h : d.makeDirectory ⟨root, parts⟩ = .ok d') :
    Deepens root parts d d' := by
  rw [makeDirectory] at h
  split at h
  · contradiction
  · split at h
    · contradiction
    · next there hl =>
        split at h
        · contradiction
        · next hn =>
            cases h
            cases there with
            | none => contradiction
            | some place =>
                have hfree : d.Free place := by
                  intro hd
                  rw [nodeAt, hd] at hn
                  contradiction
                refine ⟨rfl, rfl, fun place' => ?_, fun hr => hr.put hfree (hr.locate hl) _⟩
                by_cases he : place' = place
                · subst he
                  exact .inr ⟨hn, node?_put hfree.ne_nil _, parts, List.prefix_rfl,
                    (hfree.grows_put _).locate hl⟩
                · exact .inl (node?_put_of_ne he)

theorem makePath_deepens (root : Path.Root) (existing : Bool) (back : List String) (d : Disk) :
    Deepens root back.reverse d (d.makePath root existing back).2 := by
  induction back generalizing existing with
  | nil =>
      rw [makePath]
      split
      · next d' h => exact makeDirectory_ok h
      · exact .refl d
      · exact .refl d
  | cons last before ih =>
      rw [makePath]
      have hp : before.reverse <+: (last :: before).reverse := by
        rw [List.reverse_cons]
        exact List.prefix_append _ _
      split
      · next d' h => exact makeDirectory_ok h
      · have hm := (ih true).mono hp
        split
        · next e d' h => rwa [h] at hm
        · next d' h =>
            rw [h] at hm
            split
            · next d'' h' => exact hm.trans (makeDirectory_ok h')
            · exact hm
      · exact .refl d

theorem makeDirectories_deepens (d : Disk) (existing : Bool) (p : Path) :
    Deepens p.root p.parts d (d.makeDirectories existing p).2 := by
  have hm := makePath_deepens p.root existing p.parts.reverse d
  rwa [List.reverse_reverse] at hm

/-! ## Ways down -/

/-- Whether a disk has no directories where another one has files. -/
structure SparesFiles (d d' : Disk) : Prop where
  start : d'.start = d.start
  lost : d'.lost = d.lost
  directory (place : Place) (h : d'.node? place = some .directory) :
    d.node? place = some .directory ∨ d.node? place = none

theorem Deepens.sparesFiles (h : Deepens root parts d d') : SparesFiles d d' := by
  refine ⟨h.start, h.lost, fun place hd => ?_⟩
  rcases h.node place with hn | ⟨hn, -⟩
  · exact .inl (hn ▸ hd)
  · exact .inr hn

/-- Names that lead down lead to what they are. -/
theorem walk_down (hu : ".." ∉ names) (h : d.walk here names = .ok place) :
    place = here ++ names := by
  induction names generalizing here with
  | nil => rw [List.append_nil, ← Except.ok.inj h]
  | cons name rest ih =>
      rw [List.mem_cons, not_or] at hu
      obtain ⟨-, -, hw⟩ := walk_cons_eq_ok.mp h
      rw [next, if_neg (Ne.symm hu.1)] at hw
      rw [ih hu.2 hw, List.append_assoc]
      rfl

/-- A way that names lead down is there on the disk that was spared too, or there is nothing at its
end on that one. -/
theorem walk_of_sparesFiles (hr : d.Rooted) (h : SparesFiles d d') (hu : ".." ∉ names)
    (hw : d'.walk here names = .ok place) :
    d.walk here names = .ok place ∨ d.node? place = none := by
  induction names generalizing here with
  | nil => exact .inl hw
  | cons name rest ih =>
      obtain ⟨hd, hl, hrest⟩ := walk_cons_eq_ok.mp hw
      rcases h.directory here hd with hn | hn
      · rcases ih (fun hm => hu (List.mem_cons_of_mem _ hm)) hrest with hrest | hnone
        · exact .inl (walk_cons_eq_ok.mpr ⟨hn, hl, hrest⟩)
        · exact .inr hnone
      · exact .inr (walk_down hu hw ▸ hr.node?_append hn _)

/-- From a directory that is lost nothing leads down. -/
theorem walkLost_down {lost : Nat} (hu : ".." ∉ names) :
    d.walkLost (lost + 1) here names ≠ .ok (some place) := by
  cases names with
  | nil => simp [walkLost]
  | cons name rest =>
      rw [List.mem_cons, not_or] at hu
      simp [walkLost, Ne.symm hu.1]

/-- The same of the parts of a path. -/
theorem locate_of_sparesFiles (hr : d.Rooted) (h : SparesFiles d d') (hu : ".." ∉ p.parts)
    (hl : d'.locate p = .ok (some place)) :
    d.locate p = .ok (some place) ∨ d.node? place = none := by
  rw [locate_eq] at hl ⊢
  split at hl
  · contradiction
  · next hlen =>
      rw [if_neg hlen]
      rw [follow] at hl ⊢
      have hmap : ∀ here, (d'.walk here p.parts).map some = .ok (some place) →
          (d.walk here p.parts).map some = .ok (some place) ∨ d.node? place = none := by
        intro here hm
        cases hw : d'.walk here p.parts with
        | error e =>
            rw [hw] at hm
            contradiction
        | ok place' =>
            rw [hw] at hm
            cases hm
            exact (walk_of_sparesFiles hr h hu hw).imp_left fun hw => by rw [hw]; rfl
      split at hl
      · next hroot =>
          rw [if_pos hroot, ← h.start, ← h.lost]
          cases hlost : d'.lost with
          | zero =>
              rw [hlost] at hl
              exact hmap d'.start hl
          | succ lost =>
              rw [hlost] at hl
              exact absurd hl (walkLost_down hu)
      · next hroot =>
          rw [if_neg hroot]
          exact hmap [] hl

/-! ## What can go wrong -/

section Fault

variable {f fault : FileFault} {existing : Bool} {text : String}

/-- Whether the system refuses, or cannot take the name of a path. -/
def Refused (f : FileFault) (p : Path) : Prop :=
  f.isSystem = true ∨ FileFault.ofName? p.text = some f

theorem makeDirectory_fault (h : d.makeDirectory p = .error f) : Refused f p := by
  rw [makeDirectory] at h
  split at h
  · next hf =>
      cases h
      exact .inr hf
  · split at h
    · cases h
      exact .inl rfl
    · split at h
      · cases h
        exact .inl rfl
      · contradiction

theorem probe_fault {test : Node → Bool} (h : d.probe test p = .error f) : f.isSystem = true := by
  rw [probe] at h
  split at h
  · contradiction
  · split at h
    · contradiction
    · contradiction
    · contradiction
    · cases h
      rfl

theorem tolerate_fault (h : d.tolerate existing p fault = .error f) :
    f = fault ∨ f.isSystem = true := by
  rw [tolerate] at h
  split at h
  · split at h
    · contradiction
    · cases h
      exact .inl rfl
    · next hd =>
        cases h
        exact .inr (probe_fault hd)
  · cases h
    exact .inl rfl

theorem Refused.tolerated (hr : Refused fault p) (h : d.tolerate existing p fault = .error f) :
    Refused f p :=
  (tolerate_fault h).elim (fun he => he ▸ hr) .inl

theorem makePath_fault {back : List String} (h : (d.makePath root existing back).1 = .error f) :
    ∃ leading, leading <+: back.reverse ∧ Refused f ⟨root, leading⟩ := by
  induction back generalizing existing f with
  | nil =>
      refine ⟨[], List.prefix_rfl, ?_⟩
      rw [makePath] at h
      split at h
      · contradiction
      · next hm =>
          cases h
          exact makeDirectory_fault hm
      · next hm => exact (makeDirectory_fault hm).tolerated h
  | cons last before ih =>
      rw [makePath] at h
      split at h
      · contradiction
      · split at h
        · next e d' hm =>
            cases h
            obtain ⟨leading, hl, hr⟩ := ih (by rw [hm])
            refine ⟨leading, hl.trans ?_, hr⟩
            rw [List.reverse_cons]
            exact List.prefix_append _ _
        · next d' hm =>
            split at h
            · contradiction
            · next hm' => exact ⟨_, List.prefix_rfl, (makeDirectory_fault hm').tolerated h⟩
      · next hm => exact ⟨_, List.prefix_rfl, (makeDirectory_fault hm).tolerated h⟩

theorem makeDirectories_fault (h : (d.makeDirectories existing p).1 = .error f) :
    ∃ leading, leading <+: p.parts ∧ Refused f ⟨p.root, leading⟩ := by
  have hm := makePath_fault h
  rwa [List.reverse_reverse] at hm

theorem openFile_fault {append : Bool} (h : d.openFile p append = .error f) : Refused f p := by
  rw [openFile] at h
  split at h
  · next hf =>
      cases h
      exact .inr hf
  · split at h
    · cases h
      exact .inl rfl
    · split at h
      · cases h
        exact .inl rfl
      · contradiction
      · contradiction

theorem encode_fault {e : Text.EncodeFault} (h : (encode [text]).2 = some e) :
    Text.EncodeFault.find? text.toList = some e := by
  rw [encode] at h
  split at h
  · next hf => rwa [← h]
  · contradiction

/-- A text is not written where the path is refused or the text has no encoding. -/
theorem writeText_fault {append : Bool} (h : (d.writeText p append [text]).1 = .error f) :
    Refused f p ∨ ∃ e, Text.EncodeFault.find? text.toList = some e ∧ f = .notEncodable e := by
  rw [writeText] at h
  split at h
  · next ho =>
      cases h
      exact .inl (openFile_fault ho)
  · dsimp only at h
    split at h
    · next e he =>
        cases h
        exact .inr ⟨e, encode_fault he, rfl⟩
    · contradiction

/-- Whatever becomes of a text that is to be written, only the file of the path is another one. -/
theorem writeText_touches (d : Disk) (p : Path) (texts : List String) :
    (d.writeText p false texts).2 = d ∨
      ∃ place content executable, d.locate p = .ok (some place) ∧ d.Free place ∧
        (d.writeText p false texts).2 = d.put place (.file content executable) := by
  rw [writeText]
  cases ho : d.openFile p false with
  | error f => exact .inl rfl
  | ok opened =>
      obtain ⟨there, old, executable⟩ := opened
      obtain ⟨-, hl, hd, -⟩ := openFile_ok ho
      obtain ⟨place, rfl, hfree⟩ := free_of_nodeAt hd
      refine .inr ⟨place, old ++ (encode texts).1, executable, hl, hfree, ?_⟩
      dsimp only
      split <;> rfl

theorem rename_fault {source target : Path} (h : d.rename source target = .error f) :
    Refused f source := by
  rw [rename] at h
  split at h
  · next hn =>
      cases h
      rw [need] at hn
      split at hn
      · next hf =>
          cases hn
          exact .inr hf
      · split at hn
        · contradiction
        · cases hn
          exact .inl rfl
  · cases h
    exact .inl rfl
  · split at h
    · cases h
      exact .inl rfl
    · split at h
      · cases h
        exact .inl rfl
      · split at h
        · cases h
          exact .inl rfl
        · contradiction

end Fault

end CommandShell.Disk
