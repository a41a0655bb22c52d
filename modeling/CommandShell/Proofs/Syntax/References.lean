import CommandShell.Syntax.Reference
import Mathlib.Data.List.Basic
import Mathlib.Data.List.TakeWhile

/-!
Where a text refers to variables, and what its expansion is there and in between. A reference is
expanded by itself, whatever stands around it, and nothing that is put in is read again.
-/

namespace CommandShell.Syntax

/-- What a variable can be referred to by. -/
def IsName (name : List Char) : Prop :=
  name ≠ [] ∧ ∀ c ∈ name, Text.isWord c = true

instance : DecidablePred IsName := fun name =>
  decidable_of_iff (name ≠ [] ∧ name.all Text.isWord = true) (by simp [IsName])

/-- Whether a name ends where a text follows. -/
def Ends (after : List Char) : Prop :=
  ∀ c ∈ after.head?, Text.isWord c = false

instance : DecidablePred Ends := fun after =>
  decidable_of_iff ((after.head?.all fun c => !Text.isWord c) = true)
    (by cases after <;> simp [Ends])

/-- Whether no reference reaches from the text before into a text. -/
def Boundary (after : List Char) : Prop :=
  ∀ c ∈ after.head?, Text.isWord c = false ∧ c ≠ '\x7b' ∧ c ≠ '\x7d'

instance : DecidablePred Boundary := fun after =>
  decidable_of_iff
    ((after.head?.all fun c => !Text.isWord c && c != '\x7b' && c != '\x7d') = true)
    (by cases after <;> simp [Boundary, and_assoc])

/-- Whether a text refers to a name somewhere: in braces behind a dollar sign, or with the dollar
sign right before it and no word character behind it. -/
def Refers (cs name : List Char) : Prop :=
  IsName name ∧ ∃ before braced after,
    cs = before ++ Piece.raw (.reference name braced) ++ after ∧ (braced = false → Ends after)

theorem Boundary.ends {after : List Char} (h : Boundary after) : Ends after :=
  fun c hc => (h c hc).1

theorem boundary_dollar (rest : List Char) : Boundary ('$' :: rest) := by
  intro c hc
  cases hc
  decide

/-! ## Names at the head of a text -/

section Head

variable {name after cs : List Char}

theorem Ends.takeWhile_eq (h : Ends after) : after.takeWhile Text.isWord = [] := by
  cases after with
  | nil => rfl
  | cons c rest => exact List.takeWhile_cons_of_neg (by simp [h c rfl])

theorem Ends.dropWhile_eq (h : Ends after) : after.dropWhile Text.isWord = after := by
  cases after with
  | nil => rfl
  | cons c rest => exact List.dropWhile_cons_of_neg (by simp [h c rfl])

theorem IsName.takeWhile_append (h : IsName name) (ha : Ends after) :
    (name ++ after).takeWhile Text.isWord = name := by
  rw [List.takeWhile_append_of_pos h.2, ha.takeWhile_eq, List.append_nil]

theorem IsName.dropWhile_append (h : IsName name) (ha : Ends after) :
    (name ++ after).dropWhile Text.isWord = after := by
  rw [List.dropWhile_append_of_pos h.2, ha.dropWhile_eq]

theorem isName_takeWhile (h : (cs.takeWhile Text.isWord).isEmpty = false) :
    IsName (cs.takeWhile Text.isWord) :=
  ⟨by simpa using h, fun _ hc => List.mem_takeWhile_imp hc⟩

theorem ends_dropWhile (cs : List Char) : Ends (cs.dropWhile Text.isWord) := by
  intro c hc
  have hn := List.head?_dropWhile_not Text.isWord cs
  rw [hc] at hn
  simpa using hn

theorem ends_brace (after : List Char) : Ends ('\x7d' :: after) := by
  intro c hc
  cases hc
  decide

theorem ends_of_takeWhile (h : cs.takeWhile Text.isWord = []) : Ends cs := by
  have hd := ends_dropWhile cs
  rwa [← List.takeWhile_append_dropWhile (p := Text.isWord) (l := cs), h, List.nil_append]

theorem Ends.append (h : Ends cs) (ha : Ends after) : Ends (cs ++ after) := by
  cases cs with
  | nil => exact ha
  | cons c rest => exact h

namespace Piece

theorem braced?_eq_some_iff :
    braced? cs = some (name, after) ↔ IsName name ∧ cs = '\x7b' :: name ++ '\x7d' :: after := by
  constructor
  · intro h
    unfold braced? at h
    split at h
    · rename_i inner
      split at h
      · rename_i after' hafter
        split at h
        · cases h
        · rename_i hname
          cases h
          refine ⟨isName_takeWhile (by simpa using hname), ?_⟩
          rw [List.cons_append, ← hafter, List.takeWhile_append_dropWhile]
      · cases h
    · cases h
  · rintro ⟨hn, rfl⟩
    rw [List.cons_append, braced?, hn.dropWhile_append (ends_brace after),
      hn.takeWhile_append (ends_brace after)]
    simp [hn.1]

/-! ## One piece at a time -/

theorem split_bare (hn : IsName name) (ha : Ends after) :
    split ('$' :: name ++ after) = reference name false :: split after := by
  have hw := hn.takeWhile_append ha
  rw [List.cons_append, split, if_pos rfl, if_neg (by simp [hw, hn.1])]
  simp only [hw, hn.dropWhile_append ha]

theorem split_braced (hn : IsName name) (after : List Char) :
    split ('$' :: '\x7b' :: name ++ '\x7d' :: after) = reference name true :: split after := by
  have hb : braced? ('\x7b' :: (name ++ '\x7d' :: after)) = some (name, after) :=
    braced?_eq_some_iff.mpr ⟨hn, rfl⟩
  have hw : ('\x7b' :: (name ++ '\x7d' :: after)).takeWhile Text.isWord = [] :=
    List.takeWhile_cons_of_neg (by decide)
  rw [List.cons_append, List.cons_append, split, if_pos rfl, if_pos (by rw [hw]; rfl)]
  split
  · rename_i hs
    rw [hb] at hs
    cases hs
    rfl
  · rename_i hs
    rw [hb] at hs
    cases hs

theorem split_dollar (hw : cs.takeWhile Text.isWord = []) (hb : braced? cs = none) :
    split ('$' :: cs) = plain '$' :: split cs := by
  rw [split, if_pos rfl, if_pos (by rw [hw]; rfl)]
  split
  · rename_i hs
    rw [hb] at hs
    cases hs
  · rfl

theorem split_plain {c : Char} (hc : c ≠ '$') (rest : List Char) :
    split (c :: rest) = plain c :: split rest := by
  rw [split, if_neg hc]

/-- Each piece is as it stands in the text. -/
theorem flatMap_raw_split (cs : List Char) : (split cs).flatMap raw = cs := by
  fun_induction split cs with
  | case1 => rfl
  | case2 rest hw name after hb _ ih =>
      obtain ⟨-, rfl⟩ := braced?_eq_some_iff.mp hb
      rw [List.flatMap_cons, ih]
      simp [raw]
  | case3 rest hw hb ih =>
      rw [List.flatMap_cons, ih]
      rfl
  | case4 rest hw _ ih =>
      rw [List.flatMap_cons, ih, raw, List.cons_append, List.takeWhile_append_dropWhile]
  | case5 c rest hc ih =>
      rw [List.flatMap_cons, ih]
      rfl

/-- No reference begins where none is complete before a boundary. -/
theorem braced?_append_eq_none (hb : braced? cs = none) (ha : Boundary after) :
    braced? (cs ++ after) = none := by
  rw [Option.eq_none_iff_forall_not_mem]
  rintro ⟨name, rest⟩ h
  obtain ⟨hn, he⟩ := braced?_eq_some_iff.mp h
  cases cs with
  | nil =>
      rw [List.nil_append] at he
      exact (ha '\x7b' (by rw [he]; rfl)).2.1 rfl
  | cons c inner =>
      simp only [List.cons_append, List.cons.injEq] at he
      obtain ⟨rfl, he⟩ := he
      -- The name ends before the boundary, or a character of it stands behind, or the brace.
      obtain ⟨more, rfl, hm⟩ | ⟨more, rfl, hm⟩ := List.append_eq_append_iff.mp he
      · cases more with
        | nil => exact (ha '\x7d' (by rw [hm]; rfl)).2.2 rfl
        | cons d more =>
            have hd := hn.2 d (by simp)
            rw [(ha d (by rw [hm]; rfl)).1] at hd
            cases hd
      · cases more with
        | nil => exact (ha '\x7d' (by rw [← List.nil_append after, ← hm]; rfl)).2.2 rfl
        | cons d more =>
            simp only [List.cons_append, List.cons.injEq] at hm
            obtain ⟨rfl, rfl⟩ := hm
            rw [braced?_eq_some_iff.mpr ⟨hn, List.cons_append.symm⟩] at hb
            cases hb

/-- Nothing reaches over a boundary. -/
theorem split_append (cs : List Char) (ha : Boundary after) :
    split (cs ++ after) = split cs ++ split after := by
  fun_induction split cs with
  | case1 => rfl
  | case2 rest hw name more hb _ ih =>
      obtain ⟨hn, rfl⟩ := braced?_eq_some_iff.mp hb
      change _ = reference name true :: (split more ++ split after)
      rw [← ih, ← split_braced hn]
      simp
  | case3 rest hw hb ih =>
      have he : Ends (rest ++ after) := (ends_of_takeWhile (by simpa using hw)).append ha.ends
      rw [List.cons_append, split_dollar he.takeWhile_eq (braced?_append_eq_none hb ha), ih]
      rfl
  | case4 rest hw _ ih =>
      have hn := isName_takeWhile (by simpa using hw)
      have he : Ends (rest.dropWhile Text.isWord ++ after) := (ends_dropWhile rest).append ha.ends
      have hs : '$' :: rest.takeWhile Text.isWord ++ (rest.dropWhile Text.isWord ++ after) =
          '$' :: rest ++ after := by
        rw [← List.append_assoc, List.cons_append, List.takeWhile_append_dropWhile]
      change _ = reference _ false :: (split _ ++ split after)
      rw [← ih, ← split_bare hn he, hs]
  | case5 c rest hc ih =>
      rw [List.cons_append, split_plain hc, ih]
      rfl

/-- A reference is a piece wherever it stands. -/
theorem split_reference {before : List Char} {braced : Bool} (hn : IsName name)
    (ha : braced = false → Ends after) :
    split (before ++ raw (reference name braced) ++ after) =
      split before ++ reference name braced :: split after := by
  cases braced with
  | false =>
      rw [List.append_assoc, ← split_bare hn (ha rfl)]
      exact split_append before (boundary_dollar _)
  | true =>
      rw [← split_braced hn]
      simpa [raw] using split_append before (boundary_dollar ('\x7b' :: name ++ '\x7d' :: after))

end Piece

end Head

/-! ## What a text refers to -/

section Refers

open Piece (raw reference split)

variable {cs name : List Char}

theorem Refers.append_left (h : Refers cs name) (before : List Char) :
    Refers (before ++ cs) name := by
  obtain ⟨hn, first, braced, after, rfl, ha⟩ := h
  exact ⟨hn, before ++ first, braced, after, by simp, ha⟩

theorem refers_head {braced : Bool} (hn : IsName name) {after : List Char}
    (ha : braced = false → Ends after) : Refers (raw (reference name braced) ++ after) name :=
  ⟨hn, [], braced, after, rfl, ha⟩

theorem refers_of_mem_split {braced : Bool} (h : reference name braced ∈ split cs) :
    Refers cs name := by
  fun_induction split cs with
  | case1 => cases h
  | case2 rest hw name' after hb _ ih =>
      obtain ⟨hn, rfl⟩ := Piece.braced?_eq_some_iff.mp hb
      have hs : '$' :: ('\x7b' :: name' ++ '\x7d' :: after) =
          raw (reference name' true) ++ after := by
        simp [raw]
      rw [hs]
      rcases List.mem_cons.mp h with he | hm
      · cases he
        exact refers_head hn (by simp)
      · exact (ih hm).append_left _
  | case3 rest hw hb ih =>
      rcases List.mem_cons.mp h with he | hm
      · cases he
      · exact (ih hm).append_left ['$']
  | case4 rest hw _ ih =>
      have hn := isName_takeWhile (by simpa using hw)
      have hs : '$' :: rest =
          raw (reference (rest.takeWhile Text.isWord) false) ++ rest.dropWhile Text.isWord := by
        rw [raw, List.cons_append, List.takeWhile_append_dropWhile]
      rw [hs]
      rcases List.mem_cons.mp h with he | hm
      · cases he
        exact refers_head hn fun _ => ends_dropWhile rest
      · exact (ih hm).append_left _
  | case5 c rest hc ih =>
      rcases List.mem_cons.mp h with he | hm
      · cases he
      · exact (ih hm).append_left [c]

/-- The references that are expanded are those of the text. -/
theorem refers_iff : Refers cs name ↔ ∃ braced, reference name braced ∈ split cs := by
  constructor
  · rintro ⟨hn, before, braced, after, rfl, ha⟩
    refine ⟨braced, ?_⟩
    rw [Piece.split_reference hn ha]
    simp
  · rintro ⟨braced, h⟩
    exact refers_of_mem_split h

end Refers

/-! ## Expansion -/

section Expansion

variable {value? : List Char → Option (List Char)} {cs name before after : List Char}

theorem expandChars_append (ha : Boundary after) :
    expandChars value? (cs ++ after) = expandChars value? cs ++ expandChars value? after := by
  rw [expandChars, Piece.split_append cs ha, List.flatMap_append]
  rfl

theorem expandChars_reference {braced : Bool} (hn : IsName name)
    (ha : braced = false → Ends after) :
    expandChars value? (before ++ Piece.raw (.reference name braced) ++ after) =
      expandChars value? before ++
        (value? name).getD (Piece.raw (.reference name braced)) ++ expandChars value? after := by
  rw [expandChars, Piece.split_reference hn ha, List.flatMap_append, List.flatMap_cons,
    ← List.append_assoc]
  rfl

/-- Only values of names that the text refers to are asked for. -/
theorem expandChars_congr {value?' : List Char → Option (List Char)}
    (h : ∀ name, Refers cs name → value?' name = value? name) :
    expandChars value?' cs = expandChars value? cs := by
  refine List.flatMap_congr fun piece hp => ?_
  cases piece with
  | plain c => rfl
  | reference name braced => rw [Piece.expand, Piece.expand, h name (refers_of_mem_split hp)]

theorem expandChars_of_not_refers (h : ∀ name, ¬ Refers cs name) :
    expandChars value? cs = cs := by
  have hn : expandChars value? cs = expandChars (fun _ => none) cs :=
    expandChars_congr fun name hr => absurd hr (h name)
  rw [hn, expandChars]
  conv_rhs => rw [← Piece.flatMap_raw_split cs]
  refine List.flatMap_congr fun piece _ => ?_
  cases piece <;> rfl

/-- Dollar signs and braces that are no reference. -/
theorem expandChars_unfinished :
    ∀ text ∈ ["$$", "$\x7b", "$\x7b\x7d", "$\x7ba b\x7d", "$("],
      expandChars value? text.toList = text.toList := by
  intro text h
  rw [expandChars]
  simp only [List.mem_cons, List.not_mem_nil, or_false] at h
  rcases h with rfl | rfl | rfl | rfl | rfl <;>
    simp (disch := decide) [Piece.split_dollar, Piece.split_plain, Piece.split, Piece.expand]

end Expansion

/-! ## The expansion of a text -/

section Text

variable {value? : String → Option String} {a b : String}

theorem expandReferences_append (hb : Boundary b.toList) :
    expandReferences value? (a ++ b) = expandReferences value? a ++ expandReferences value? b := by
  simp only [expandReferences, String.toList_append, expandChars_append hb, String.ofList_append]

/-- A reference in a text, from the way that it is written. -/
theorem expandReferences_written {w written : String} (braced : Bool)
    (hs : written.toList = Piece.raw (.reference w.toList braced)) (hw : IsName w.toList)
    (hb : braced = false → Ends b.toList) :
    expandReferences value? (a ++ written ++ b) =
      expandReferences value? a ++ (value? w).getD written ++ expandReferences value? b := by
  have hv : (((value? w).map String.toList).getD written.toList) =
      ((value? w).getD written).toList := by
    cases value? w <;> rfl
  simp only [expandReferences, String.toList_append]
  rw [hs, expandChars_reference hw hb, String.ofList_append, String.ofList_append,
    String.ofList_toList, ← hs, hv, String.ofList_toList]

end Text

/-- Expansion is a substitution in one pass: texts around a boundary are expanded by themselves, and
a value is inserted as it is. -/
theorem expandReferences_local (value? : String → Option String) :
    (∀ a b : String, Boundary b.toList →
      expandReferences value? (a ++ b) = expandReferences value? a ++ expandReferences value? b) ∧
    (∀ w : String, IsName w.toList → ∀ a b : String,
      expandReferences value? (a ++ ("$\x7b" ++ w ++ "\x7d") ++ b) =
        expandReferences value? a ++ (value? w).getD ("$\x7b" ++ w ++ "\x7d") ++
          expandReferences value? b ∧
      (Ends b.toList →
        expandReferences value? (a ++ ("$" ++ w) ++ b) =
          expandReferences value? a ++ (value? w).getD ("$" ++ w) ++ expandReferences value? b)) ∧
    (∀ text : String, (∀ name, ¬ Refers text.toList name) → expandReferences value? text = text) ∧
    (∀ text ∈ ["$$", "$\x7b", "$\x7b\x7d", "$\x7ba b\x7d", "$("],
      expandReferences value? text = text) ∧
    (∀ (value?' : String → Option String) (text : String),
      (∀ name : String, Refers text.toList name.toList → value?' name = value? name) →
      expandReferences value?' text = expandReferences value? text) := by
  refine ⟨fun a b hb => ?_, fun w hw a b => ⟨?_, fun hb => ?_⟩, fun text h => ?_, fun text h => ?_,
    fun value?' text h => ?_⟩
  · exact expandReferences_append hb
  · exact expandReferences_written true (by simp [Piece.raw]) hw Bool.noConfusion
  · exact expandReferences_written false (by simp [Piece.raw]) hw fun _ => hb
  · rw [expandReferences, expandChars_of_not_refers h, String.ofList_toList]
  · rw [expandReferences, expandChars_unfinished text h, String.ofList_toList]
  · rw [expandReferences, expandReferences, expandChars_congr fun name hr => ?_]
    rw [h (String.ofList name) (by rwa [String.toList_ofList])]

/-- A value that is a reference to its own name is put in as it is. -/
theorem expandReferences_local_own_name :
    let value? : String → Option String := fun name => if name = "x" then some "$x" else none
    Boundary "$x!".toList ∧ IsName "x".toList ∧ Ends "!".toList ∧
      (∀ name, ¬ Refers "$$".toList name) ∧
      expandReferences value? ("$y" ++ "$x!") =
        expandReferences value? "$y" ++ expandReferences value? "$x!" ∧
      expandReferences value? ("" ++ ("$\x7b" ++ "x" ++ "\x7d") ++ "!") =
        expandReferences value? "" ++ "$x" ++ expandReferences value? "!" ∧
      expandReferences value? ("" ++ ("$" ++ "x") ++ "!") =
        expandReferences value? "" ++ "$x" ++ expandReferences value? "!" ∧
      expandReferences value? "$$" = "$$" ∧
      expandReferences (fun _ => some "") "$$" = expandReferences value? "$$" := by
  intro value?
  have hx : IsName "x".toList := by decide
  have hr : ∀ name, ¬ Refers "$$".toList name := fun name h => by
    obtain ⟨braced, hm⟩ := refers_iff.mp h
    simp (disch := decide) [Piece.split_dollar, Piece.split] at hm
  obtain ⟨ha, hw, hn, -, hc⟩ := expandReferences_local value?
  exact ⟨by decide, hx, by decide, hr, ha "$y" "$x!" (by decide), (hw "x" hx "" "!").1,
    (hw "x" hx "" "!").2 (by decide), hn "$$" hr, hc _ "$$" fun name h => absurd h (hr _)⟩

end CommandShell.Syntax
