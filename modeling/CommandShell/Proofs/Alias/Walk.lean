import CommandShell.Proofs.Alias.Words
import CommandShell.Proofs.Execution.Failure
import Mathlib.Data.Fintype.Pigeonhole
import Mathlib.Data.Set.Finite.Basic

/-!
The walk from name to name that following aliases is. A hop leads from an alias to another one at
the head of its words; what resolving comes to is told by how many hops there are, and by the name
at which they end.
-/

namespace CommandShell

namespace Alias

/-- A hop leads from an alias to the first of its words, where that is another name and an alias as
well. The other words become arguments. -/
structure Hop (entries : Entries) (name : String) (own : List String) (next : String) : Prop where
  is_alias : isAlias entries name = true
  words_eq : wordsOf entries name = .ok (next :: own)
  next_ne : next ≠ name
  next_alias : isAlias entries next = true

/-- Some hops one after the other. The words of later hops come before those of earlier ones. -/
inductive Walk (entries : Entries) : String → Nat → List String → String → Prop
  | stay (name) : Walk entries name 0 [] name
  | hop {name own next count more last} (h : Hop entries name own next)
      (hw : Walk entries next count more last) : Walk entries name (count + 1) (more ++ own) last

/-- A walk from whose last name no hop leads on. -/
structure Ends (entries : Entries) (name : String) (count : Nat) (own : List String)
    (last : String) : Prop where
  walk : Walk entries name count own last
  no_hop : ∀ more next, ¬Hop entries last more next

/-- The walk from a name goes on for ever. -/
def Endless (entries : Entries) (name : String) : Prop :=
  ∀ count, ∃ own last, Walk entries name count own last

/-- What a call stands for by itself: an alias with words stands for them, and any other name for
itself. -/
inductive Stands (entries : Entries) (name : String) (args : List String) : Invocation → Prop
  | command (h : isAlias entries name = false) : Stands entries name args ⟨name, args⟩
  | blank (h : isAlias entries name = true) (hw : wordsOf entries name = .ok []) :
      Stands entries name args ⟨name, args⟩
  | words {head own} (h : isAlias entries name = true)
      (hw : wordsOf entries name = .ok (head :: own)) :
      Stands entries name args ⟨head, own ++ args⟩

section Walk

variable {entries : Entries} {name next last : String} {own more : List String} {count : Nat}

/-! ## Hops -/

theorem Hop.eq {next' : String} {own' : List String} (h : Hop entries name own next)
    (h' : Hop entries name own' next') : next' = next ∧ own' = own := by
  have hw := h'.words_eq
  rw [h.words_eq, Except.ok.injEq, List.cons.injEq] at hw
  exact ⟨hw.1.symm, hw.2.symm⟩

theorem step_of_hop (h : Hop entries name own next) (args : List String) :
    step entries ⟨name, args⟩ = .ok (⟨next, own ++ args⟩, true) := by
  simp [step, h.is_alias, h.words_eq, h.next_ne, h.next_alias]

/-- Where no hop leads on, a call stands for what it stands for by itself. -/
theorem step_of_no_hop (hn : ∀ more next, ¬Hop entries name more next)
    (hu : ¬IsUnwritable entries name) (args : List String) :
    ∃ i, step entries ⟨name, args⟩ = .ok (i, false) ∧ Stands entries name args i := by
  cases ha : isAlias entries name with
  | false => exact ⟨_, by simp [step, ha], .command ha⟩
  | true =>
      rcases hw : wordsOf entries name with f | _ | ⟨head, own⟩
      · exact absurd (wordsOf_eq_error.mp hw).1 hu
      · exact ⟨_, by simp [step, ha, hw], .blank ha hw⟩
      · refine ⟨⟨head, own ++ args⟩, ?_, .words ha hw⟩
        have hh : ¬(head ≠ name ∧ isAlias entries head = true) :=
          fun h => hn own head ⟨ha, hw, h.1, h.2⟩
        simp [step, ha, hw, hh]

/-- A name that something stands for is an alias only if it has no words or begins with itself. -/
theorem Stands.words_of_alias {args : List String} {i : Invocation}
    (hs : Stands entries name args i) (hn : ∀ more next, ¬Hop entries name more next)
    (ha : isAlias entries i.name = true) :
    wordsOf entries i.name = .ok [] ∨ ∃ own, wordsOf entries i.name = .ok (i.name :: own) := by
  cases hs with
  | command h => exact absurd (h.symm.trans ha) (by decide)
  | blank h hw => exact .inl hw
  | @words head own h hw =>
      by_cases he : head = name
      · subst he
        exact .inr ⟨own, hw⟩
      · exact absurd ⟨h, hw, he, ha⟩ (hn own head)

/-! ## Walks -/

namespace Walk

theorem eq {last' : String} {own' : List String} (h : Walk entries name count own last)
    (h' : Walk entries name count own' last') : last' = last ∧ own' = own := by
  induction h generalizing own' last' with
  | stay name =>
      cases h'
      exact ⟨rfl, rfl⟩
  | hop hh _ ih =>
      cases h' with
      | hop hh' hw' =>
          obtain ⟨rfl, rfl⟩ := hh.eq hh'
          obtain ⟨rfl, rfl⟩ := ih hw'
          exact ⟨rfl, rfl⟩

theorem trans {count' : Nat} {middle : String} (h : Walk entries name count own middle)
    (h' : Walk entries middle count' more last) :
    Walk entries name (count + count') (more ++ own) last := by
  induction h with
  | stay name => simpa using h'
  | @hop name own next count _ _ hh _ ih =>
      rw [Nat.add_right_comm, ← List.append_assoc]
      exact .hop hh (ih h')

/-- A walk can be cut after any number of hops. -/
theorem split {count' : Nat} (h : Walk entries name (count + count') own last) :
    ∃ more middle later, Walk entries name count more middle ∧
      Walk entries middle count' later last := by
  induction count generalizing name own with
  | zero =>
      rw [Nat.zero_add] at h
      exact ⟨[], name, own, .stay name, h⟩
  | succ count ih =>
      rw [Nat.add_right_comm] at h
      cases h with
      | hop hh hw =>
          obtain ⟨more, middle, later, hm, hl⟩ := ih hw
          exact ⟨_, middle, later, .hop hh hm, hl⟩

theorem last_alias (h : Walk entries name (count + 1) own last) :
    isAlias entries last = true := by
  induction count generalizing name own with
  | zero =>
      cases h with
      | hop hh hw =>
          cases hw
          exact hh.next_alias
  | succ count ih =>
      cases h with
      | hop hh hw => exact ih hw

end Walk

/-- Every walk ends or goes on for ever. -/
theorem endless_or_ends (entries : Entries) (name : String) :
    Endless entries name ∨ ∃ count own last, Ends entries name count own last := by
  rw [or_iff_not_imp_right]
  intro hn count
  induction count with
  | zero => exact ⟨[], name, .stay name⟩
  | succ count ih =>
      obtain ⟨own, last, hw⟩ := ih
      have hl : ¬∀ more next, ¬Hop entries last more next :=
        fun hl => hn ⟨count, own, last, hw, hl⟩
      push Not at hl
      obtain ⟨more, next, hh⟩ := hl
      exact ⟨_, next, hw.trans (.hop hh (.stay next))⟩

/-! ## Cycles -/

theorem key_injective : Function.Injective key := by
  intro a b h
  have hl : (keyStart ++ a).toList = (keyStart ++ b).toList := congrArg String.toList h
  rw [String.toList_append, String.toList_append] at hl
  exact String.toList_injective (List.append_cancel_left hl)

/-- There are finitely many aliases. -/
theorem finite_aliases (entries : Entries) : {name | isAlias entries name = true}.Finite := by
  have hk : Set.Finite {k | k ∈ entries.keys} := List.finite_toSet entries.keys
  refine (hk.preimage key_injective.injOn).subset ?_
  intro name h
  simp only [Set.mem_ofPred_eq, isAlias, OrderedMap.contains, List.any_eq_true,
    decide_eq_true_eq] at h
  obtain ⟨e, he, hke⟩ := h
  exact List.mem_map.mpr ⟨e, he, hke⟩

theorem endless_of_cycle (h : Walk entries name count own last) {period : Nat}
    (hp : 0 < period) (hc : Walk entries last period more last) : Endless entries name := by
  intro target
  -- Enough rounds make the walk at least as long as is asked for.
  have hr : ∀ rounds, ∃ own, Walk entries name (count + rounds * period) own last := by
    intro rounds
    induction rounds with
    | zero => exact ⟨own, by simpa using h⟩
    | succ rounds ih =>
        obtain ⟨own, hw⟩ := ih
        refine ⟨more ++ own, ?_⟩
        rw [Nat.succ_mul, ← Nat.add_assoc]
        exact hw.trans hc
  obtain ⟨own, hw⟩ := hr target
  have hle : target ≤ count + target * period :=
    (Nat.le_mul_of_pos_right target hp).trans (Nat.le_add_left _ _)
  obtain ⟨extra, he⟩ := Nat.exists_eq_add_of_le hle
  rw [he] at hw
  obtain ⟨own, middle, -, hm, -⟩ := hw.split
  exact ⟨own, middle, hm⟩

/-- What follows the first hop has no end either. -/
theorem Endless.first_hop (h : Endless entries name) :
    ∃ own next, Hop entries name own next ∧ Endless entries next := by
  obtain ⟨own, last, hw⟩ := h 1
  cases hw with
  | @hop _ own next _ _ _ hh _ =>
      refine ⟨own, next, hh, fun count => ?_⟩
      obtain ⟨own', last, hw⟩ := h (count + 1)
      cases hw with
      | hop hh' hw =>
          obtain ⟨rfl, rfl⟩ := hh.eq hh'
          exact ⟨_, last, hw⟩

/-- A walk without an end comes back to a name, since there are only so many aliases. -/
theorem Endless.cycle (h : Endless entries name) :
    ∃ count own last period more, 0 < period ∧ Walk entries name count own last ∧
      Walk entries last period more last := by
  choose own last hw using h
  have := (finite_aliases entries).to_subtype
  obtain ⟨i, j, hij, he⟩ := Finite.exists_ne_map_eq_of_infinite
    fun count => (⟨last (count + 1), (hw (count + 1)).last_alias⟩ :
      {name | isAlias entries name = true})
  wlog hlt : i < j generalizing i j
  · exact this j i hij.symm he.symm (by omega)
  have hl : last (i + 1) = last (j + 1) := congrArg Subtype.val he
  have hj := hw (j + 1)
  rw [show j + 1 = i + 1 + (j - i) by omega] at hj
  obtain ⟨more, middle, later, hm, hc⟩ := hj.split
  obtain ⟨rfl, -⟩ := (hw (i + 1)).eq hm
  rw [show i + 1 + (j - i) = j + 1 by omega, ← hl] at hc
  exact ⟨i + 1, _, _, j - i, later, by omega, hm, hc⟩

theorem endless_iff_cycle :
    Endless entries name ↔
      ∃ count own last period more, 0 < period ∧ Walk entries name count own last ∧
        Walk entries last period more last := by
  refine ⟨Endless.cycle, ?_⟩
  rintro ⟨count, own, last, period, more, hp, hw, hc⟩
  exact endless_of_cycle hw hp hc

/-- Two aliases that stand for each other are followed without end. -/
theorem endless_of_pair {first second : List String} (h : Hop entries name first next)
    (h' : Hop entries next second name) : Endless entries name :=
  endless_of_cycle (.stay name) (Nat.succ_pos 1) (.hop h (.hop h' (.stay name)))

end Walk

end Alias

namespace Stack

open Alias (Entries Hop Walk Ends Endless Stands IsUnwritable isAlias wordsOf)

variable {entries : Entries} {maxDepth walked : Int} {name next last : String}
  {own args : List String} {count : Nat}

theorem resolve_of_hop (h : Hop entries name own next) :
    resolve entries maxDepth none ⟨name, args⟩ walked =
      if walked + 1 ≥ maxDepth then .error (.limit (.aliases maxDepth))
      else resolve entries maxDepth none ⟨next, own ++ args⟩ (walked + 1) := by
  rw [resolve]
  simp only [Room.overflow?_none, Alias.step_of_hop h, Room.above_none]

/-- A call that stands for nothing further. -/
theorem resolve_of_stay {room : Room} {i j : Invocation}
    (hs : Alias.step entries i = .ok (j, false)) :
    resolve entries maxDepth room i walked =
      match room.overflow? (hopClimb entries i.name), room.overflow? arrivalClimb with
      | some o, _ | none, some o => .error (.overflow o)
      | none, none => .ok j := by
  rw [resolve]
  simp only [hs]
  cases room.overflow? (hopClimb entries i.name) with
  | some o => rfl
  | none => cases room.overflow? arrivalClimb <;> rfl

theorem resolve_of_no_hop (hn : ∀ more next, ¬Hop entries name more next)
    (hu : ¬IsUnwritable entries name) :
    ∃ i, resolve entries maxDepth none ⟨name, args⟩ walked = .ok i ∧
      Stands entries name args i := by
  obtain ⟨i, hi, hs⟩ := Alias.step_of_no_hop hn hu args
  refine ⟨i, ?_, hs⟩
  rw [resolve_of_stay hi]
  rfl

theorem resolve_of_unwritable (hu : IsUnwritable entries name) :
    resolve entries maxDepth none ⟨name, args⟩ walked = .error (.json .unwritable) := by
  have hs : Alias.step entries ⟨name, args⟩ = .error .unwritable :=
    Alias.step_eq_error.mpr ⟨hu, rfl⟩
  rw [resolve]
  simp only [Room.overflow?_none, hs]

/-- A walk that reaches the limit is given up at its first hop that does. -/
theorem resolve_of_walk (h : Walk entries name count own last) (hc : 1 ≤ count)
    (hm : maxDepth ≤ walked + count) :
    resolve entries maxDepth none ⟨name, args⟩ walked = .error (.limit (.aliases maxDepth)) := by
  induction h generalizing walked args with
  | stay name => contradiction
  | @hop name own next count more last hh hw ih =>
      rw [resolve_of_hop hh]
      split
      · rfl
      · apply ih
        · omega
        · omega

/-- A walk that keeps below the limit comes to what resolving the name at its end comes to. -/
theorem resolve_of_short_walk (h : Walk entries name count own last)
    (hl : ¬(1 ≤ count ∧ maxDepth ≤ walked + count)) (args : List String) :
    resolve entries maxDepth none ⟨name, args⟩ walked =
      resolve entries maxDepth none ⟨last, own ++ args⟩ (walked + count) := by
  induction h generalizing walked args with
  | stay name => simp
  | @hop name own next count more last hh hw ih =>
      have hc : walked + 1 + (count : Int) = walked + (count + 1 : Nat) := by omega
      rw [resolve_of_hop hh, if_neg (by omega), ih (by omega), List.append_assoc, hc]

theorem resolve_of_ends (h : Ends entries name count own last)
    (hl : ¬(1 ≤ count ∧ maxDepth ≤ walked + count)) (hu : ¬IsUnwritable entries last)
    (args : List String) :
    ∃ i, resolve entries maxDepth none ⟨name, args⟩ walked = .ok i ∧
      Stands entries last (own ++ args) i := by
  rw [resolve_of_short_walk h.walk hl]
  exact resolve_of_no_hop h.no_hop hu

theorem resolve_of_endless (h : Endless entries name) :
    resolve entries maxDepth none ⟨name, args⟩ walked = .error (.limit (.aliases maxDepth)) := by
  obtain ⟨own, last, hw⟩ := h ((maxDepth - walked).toNat + 1)
  exact resolve_of_walk hw (by omega) (by omega)

/-- On a stack that is bounded the walk is the same until the stack is used up. -/
theorem resolve_room (room : Room) (i : Invocation) :
    resolve entries maxDepth room i walked = resolve entries maxDepth none i walked ∨
      ∃ o, room ≠ none ∧ resolve entries maxDepth room i walked = .error (.overflow o) := by
  fun_induction resolve entries maxDepth room i walked with
  | case1 room i walked o ho => exact .inr ⟨o, (spills_of_overflow? ho).1, rfl⟩
  | case2 room i walked f hs _ =>
      refine .inl ?_
      rw [resolve]
      simp only [Room.overflow?_none, hs]
  | case3 room i walked next hs _ hm =>
      refine .inl ?_
      rw [resolve]
      simp only [Room.overflow?_none, hs, if_pos hm]
  | case4 room i walked next hs _ hm ih =>
      have hr : resolve entries maxDepth none i walked =
          resolve entries maxDepth none next (walked + 1) := by
        rw [resolve]
        simp only [Room.overflow?_none, hs, if_neg hm, Room.above_none]
      rw [hr]
      refine ih.imp_right ?_
      rintro ⟨o, hn, ho⟩
      exact ⟨o, fun h => hn (by rw [h, Room.above_none]), ho⟩
  | case5 room i walked next _ _ o ho => exact .inr ⟨o, (spills_of_overflow? ho).1, rfl⟩
  | case6 room i walked next hs _ _ =>
      refine .inl ?_
      rw [resolve]
      simp only [Room.overflow?_none, hs]

/-- A walk without an end uses up a stack that is smaller than the limit. -/
theorem resolve_overflows (h : Endless entries name) {levels : Nat}
    (hl : walked + levels < maxDepth) :
    ∃ o, resolve entries maxDepth (some levels) ⟨name, args⟩ walked = .error (.overflow o) := by
  induction levels generalizing walked name args with
  | zero =>
      refine ⟨.entry, ?_⟩
      rw [resolve]
      rfl
  | succ levels ih =>
      obtain ⟨own, next, hh, hn⟩ := h.first_hop
      rw [resolve]
      simp only [Alias.step_of_hop hh]
      cases Room.overflow? (some (levels + 1)) (hopClimb entries name) with
      | some o => exact ⟨o, rfl⟩
      | none =>
          dsimp only
          rw [if_neg (by omega)]
          exact ih hn (by omega)

/-- Resolving a name follows the walk of its hops, unless the limit, an alias without a text or the
end of the stack comes first. -/
theorem resolve_bounded_walk (entries : Entries) (maxDepth walked : Int) (name : String)
    (args : List String) :
    (Endless entries name ∨ ∃ count own last, Ends entries name count own last) ∧
    (Endless entries name ↔
      ∃ count own last period more, 0 < period ∧ Walk entries name count own last ∧
        Walk entries last period more last) ∧
    (Endless entries name →
      resolve entries maxDepth none ⟨name, args⟩ walked = .error (.limit (.aliases maxDepth))) ∧
    (∀ count own last, Ends entries name count own last →
      if 1 ≤ count ∧ maxDepth ≤ walked + count then
        resolve entries maxDepth none ⟨name, args⟩ walked = .error (.limit (.aliases maxDepth))
      else
        (IsUnwritable entries last →
          resolve entries maxDepth none ⟨name, args⟩ walked = .error (.json .unwritable)) ∧
        (¬IsUnwritable entries last →
          ∃ i, resolve entries maxDepth none ⟨name, args⟩ walked = .ok i ∧
            Stands entries last (own ++ args) i)) ∧
    (∀ i, resolve entries maxDepth none ⟨name, args⟩ walked = .ok i →
      isAlias entries i.name = true →
      wordsOf entries i.name = .ok [] ∨ ∃ own, wordsOf entries i.name = .ok (i.name :: own)) ∧
    (∀ room, resolve entries maxDepth room ⟨name, args⟩ walked =
        resolve entries maxDepth none ⟨name, args⟩ walked ∨
      ∃ o, room ≠ none ∧
        resolve entries maxDepth room ⟨name, args⟩ walked = .error (.overflow o)) ∧
    (∀ levels : Nat, Endless entries name → walked + levels < maxDepth → ∃ o,
      resolve entries maxDepth (some levels) ⟨name, args⟩ walked = .error (.overflow o)) := by
  refine ⟨Alias.endless_or_ends entries name, Alias.endless_iff_cycle, resolve_of_endless, ?_, ?_,
    fun room => resolve_room room _, fun levels he hl => resolve_overflows he hl⟩
  · intro count own last he
    split
    · rename_i hm
      exact resolve_of_walk he.walk hm.1 hm.2
    · rename_i hm
      refine ⟨fun hu => ?_, fun hu => resolve_of_ends he hm hu args⟩
      rw [resolve_of_short_walk he.walk hm]
      exact resolve_of_unwritable hu
  · intro i hi ha
    rcases Alias.endless_or_ends entries name with he | ⟨count, own, last, he⟩
    · rw [resolve_of_endless he] at hi
      contradiction
    · by_cases hm : 1 ≤ count ∧ maxDepth ≤ walked + count
      · rw [resolve_of_walk he.walk hm.1 hm.2] at hi
        contradiction
      · by_cases hu : IsUnwritable entries last
        · rw [resolve_of_short_walk he.walk hm, resolve_of_unwritable hu] at hi
          contradiction
        · obtain ⟨j, hj, hs⟩ := resolve_of_ends he hm hu args
          rw [hi, Except.ok.injEq] at hj
          subst hj
          exact hs.words_of_alias he.no_hop ha

/-- A chain into an alias that stands for itself, and a cycle of two. -/
theorem resolve_bounded_walk_chain :
    let entries : Entries := OrderedMap.ofList
      [("alias_a", .str "b 1"), ("alias_b", .str "b 2"), ("alias_x", .str "y"),
       ("alias_y", .str "x")]
    (Ends entries "a" 1 ["1"] "b" ∧
      resolve entries 2 none ⟨"a", ["3"]⟩ 0 = .ok ⟨"b", ["2", "1", "3"]⟩ ∧
      resolve entries 1 none ⟨"a", ["3"]⟩ 0 = .error (.limit (.aliases 1))) ∧
    (Endless entries "x" ∧
      resolve entries 9 none ⟨"x", []⟩ 0 = .error (.limit (.aliases 9))) := by
  intro entries
  have hb : wordsOf entries "b" = .ok ["b", "2"] := by decide
  have ha : Hop entries "a" ["1"] "b" := ⟨by decide, by decide, by decide, by decide⟩
  have he : Ends entries "a" 1 ["1"] "b" := by
    refine ⟨.hop ha (.stay "b"), ?_⟩
    intro more next h
    have hw := h.words_eq
    rw [hb, Except.ok.injEq, List.cons.injEq] at hw
    exact h.next_ne hw.1.symm
  have hu : ¬IsUnwritable entries "b" := fun h => by
    rw [Alias.wordsOf_eq_error.mpr ⟨h, rfl⟩] at hb
    contradiction
  have hx : Hop entries "x" [] "y" := ⟨by decide, by decide, by decide, by decide⟩
  have hy : Hop entries "y" [] "x" := ⟨by decide, by decide, by decide, by decide⟩
  obtain ⟨-, -, -, hc, -⟩ := resolve_bounded_walk entries 2 0 "a" ["3"]
  obtain ⟨-, -, -, hl, -⟩ := resolve_bounded_walk entries 1 0 "a" ["3"]
  obtain ⟨-, -, hn, -⟩ := resolve_bounded_walk entries 9 0 "x" []
  have hend : Endless entries "x" := Alias.endless_of_pair hx hy
  refine ⟨⟨he, ?_, ?_⟩, ?_, ?_⟩
  · have hs := hc 1 ["1"] "b" he
    rw [if_neg (by decide)] at hs
    obtain ⟨i, hr, hs⟩ := hs.2 hu
    rw [hr]
    cases hs with
    | command h => exact absurd h (by decide)
    | blank h hw => rw [hb] at hw; contradiction
    | words h hw =>
        rw [hb, Except.ok.injEq, List.cons.injEq] at hw
        rw [← hw.1, ← hw.2]
        rfl
  · simpa using hl 1 ["1"] "b" he
  · exact hend
  · exact hn hend

/-- A number too large to be written has no text to be followed, and a cycle uses up a stack that
ends before the limit. -/
theorem resolve_leaves_walk :
    (let entries : Entries :=
       OrderedMap.empty.insert "alias_x" (.int ((10 ^ Json.maxDigits : Nat) : Int))
     resolve entries 32 none ⟨"x", []⟩ 0 = .error (.json .unwritable)) ∧
    (let entries : Entries := OrderedMap.ofList [("alias_a", .str "b"), ("alias_b", .str "a")]
     Endless entries "a" ∧ ∃ o,
       resolve entries 100000 (some 1000) ⟨"a", []⟩ 0 = .error (.overflow o)) := by
  refine ⟨?_, ?_⟩
  · exact resolve_of_unwritable ⟨_, rfl, Json.not_isWritable_power⟩
  · intro entries
    have ha : Hop entries "a" [] "b" := ⟨by decide, by decide, by decide, by decide⟩
    have hb : Hop entries "b" [] "a" := ⟨by decide, by decide, by decide, by decide⟩
    have he : Endless entries "a" := Alias.endless_of_pair ha hb
    exact ⟨he, resolve_overflows he (by decide)⟩

end Stack

end CommandShell
