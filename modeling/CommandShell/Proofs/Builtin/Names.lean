import CommandShell.Proofs.OrderedMap
import CommandShell.Startup

/-!
The names of commands. Of those that declare a name the registry finds the command that was
registered last, and names are compared without regard to case.
-/

namespace CommandShell

/-! ## Case -/

namespace Text

theorem lowerChar_of_letter {c : Char} (h : c.isLower = true) : lowerChar c = [c] := by
  have hletters : ∀ n < 26, lowerChar (Char.ofNat (97 + n)) = [Char.ofNat (97 + n)] := by
    decide +kernel
  obtain ⟨hfirst, hlast⟩ := Bool.and_eq_true_iff.mp h
  have hn : 97 ≤ c.toNat ∧ c.toNat ≤ 122 := ⟨of_decide_eq_true hfirst, of_decide_eq_true hlast⟩
  have hc := hletters (c.toNat - 97) (by omega)
  rwa [Nat.add_sub_cancel' hn.1, Char.ofNat_toNat] at hc

/-- Small letters stay as they are. -/
theorem lower_of_letters {s : String} (h : s.toList.all Char.isLower = true) : lower s = s := by
  have hfrom : ∀ cs before, cs.all Char.isLower = true → lowerFrom before cs = cs := by
    intro cs
    induction cs with
    | nil => exact fun before _ => rfl
    | cons c rest ih =>
        intro before hcs
        rw [List.all_cons, Bool.and_eq_true] at hcs
        obtain ⟨hc, hrest⟩ := hcs
        have hsigma : c ≠ capitalSigma := by
          rintro rfl
          exact absurd hc (by decide)
        rw [lowerFrom, if_neg hsigma, lowerChar_of_letter hc, ih _ hrest]
        rfl
  rw [lower, hfrom _ _ h, String.ofList_toList]

end Text

/-! ## The registry -/

/-- Whether a command declares a name, up to case. -/
def Command.declares (name : String) (c : Command) : Bool :=
  (c.card.name :: c.card.aliases).any fun declared => Text.lower declared = Text.lower name

namespace Registry

theorem get?_foldl_insert (c : Command) (names : List String) (r : Registry) (name : String) :
    (names.foldl (fun r name => r.insert (Text.lower name) c) r).get? (Text.lower name) =
      if names.any fun declared => Text.lower declared = Text.lower name then some c
      else r.get? (Text.lower name) := by
  induction names generalizing r with
  | nil => rfl
  | cons first rest ih =>
      rw [List.foldl_cons, ih, List.any_cons]
      cases rest.any fun declared => Text.lower declared = Text.lower name with
      | true => simp
      | false =>
          by_cases hf : Text.lower first = Text.lower name
          · simp [hf, OrderedMap.get?_insert_self]
          · simp [hf, OrderedMap.get?_insert_of_ne]

/-- The command that is registered last takes the names that it declares. -/
theorem get?_foldl_register (r : Registry) (commands : List Command) (name : String) :
    (commands.foldl register r).get? (Text.lower name) =
      (commands.reverse.find? (Command.declares name)).or (r.get? (Text.lower name)) := by
  induction commands generalizing r with
  | nil => rfl
  | cons c rest ih =>
      have hr : (r.register c).get? (Text.lower name) =
          if c.declares name then some c else r.get? (Text.lower name) :=
        get?_foldl_insert c _ r name
      rw [List.foldl_cons, ih, hr, List.reverse_cons, List.find?_append, Option.or_assoc]
      cases hd : c.declares name <;> simp [hd]

theorem get?_registered (commands : List Command) (name : String) :
    (commands.foldl register empty).get? (Text.lower name) =
      commands.reverse.find? (Command.declares name) := by
  rw [get?_foldl_register]
  exact Option.or_none

theorem find?_foldl_register (r : Registry) (commands : List Command) {name : String}
    (hn : name ≠ "") :
    (commands.foldl register r).find? name =
      (commands.reverse.find? (Command.declares name)).or (r.find? name) := by
  rw [find?, find?, if_neg hn, if_neg hn, get?_foldl_register]

/-- The names that commands look up are those that can be called. -/
theorem find?_directory (r : Registry) (name : String) :
    r.directory.find? name = (r.find? name).map Command.card := by
  rw [Directory.find?, find?]
  split
  · rfl
  · exact OrderedMap.get?_mapValues _ _

end Registry

/-! ## The built-in commands -/

namespace Builtin

variable {name : String} {c : Command}

theorem find?_registry (hn : name ≠ "") :
    registry.find? name = all.reverse.find? (Command.declares name) := by
  rw [registry, Registry.find?, if_neg hn, Registry.get?_registered]

theorem mem_all_of_find? (h : registry.find? name = some c) :
    c ∈ all ∧ c.declares name = true := by
  have hn : name ≠ "" := by
    rintro rfl
    exact nomatch h
  rw [find?_registry hn] at h
  exact ⟨List.mem_reverse.mp (List.mem_of_find?_eq_some h), List.find?_some h⟩

/-- Every built-in command is named in small letters. -/
theorem names_lower {declared : String} (hc : c ∈ all)
    (hd : declared ∈ c.card.name :: c.card.aliases) : Text.lower declared = declared := by
  have hletters : ∀ c ∈ all, ∀ declared ∈ c.card.name :: c.card.aliases,
      declared.toList.all Char.isLower = true := by
    decide +kernel
  exact Text.lower_of_letters (hletters c hc declared hd)

/-- The names that a command goes by, in small letters. -/
theorem declares_iff (hc : c ∈ all) :
    c.declares name = true ↔ Text.lower name ∈ c.card.name :: c.card.aliases := by
  rw [Command.declares, List.any_eq_true]
  constructor
  · rintro ⟨declared, hm, hl⟩
    rw [decide_eq_true_eq, names_lower hc hm] at hl
    exact hl ▸ hm
  · intro hm
    exact ⟨_, hm, decide_eq_true (names_lower hc hm)⟩

/-- Small letters are looked up among the names as they are. -/
theorem find?_of_letters (hn : name ≠ "") (hl : name.toList.all Char.isLower = true) :
    registry.find? name =
      all.reverse.find? fun c => (c.card.name :: c.card.aliases).contains name := by
  rw [find?_registry hn, ← List.head?_filter, ← List.head?_filter]
  refine congrArg _ (List.filter_congr fun c hc => ?_)
  rw [Bool.eq_iff_iff, declares_iff (List.mem_reverse.mp hc), Text.lower_of_letters hl,
    List.contains_iff_mem]

theorem registry_of_settings {c : Settings} {announces : Bool} {w : Surroundings} {s : Shell}
    (h : Shell.ofSettings c announces w = .ok s) : s.registry = Builtin.registry := by
  rw [Shell.ofSettings] at h
  split at h
  · contradiction
  · contradiction
  · rw [Shell.start] at h
    split at h
    · contradiction
    · contradiction
    · cases h
      rfl

end Builtin

end CommandShell
