import CommandShell.Proofs.Substitution.Closed
import CommandShell.Proofs.Syntax.Pieces
import CommandShell.Proofs.Syntax.Rendering
import CommandShell.Syntax.Reference
import Mathlib.Data.List.Chain

/-! A call written as a line: every argument in double quotes, with a backslash before each double
quote and each backslash. Whatever reads the line finds nothing in it to cut, to evaluate or to
replace, and the words are those of the call. -/

namespace CommandShell.Syntax

namespace Quotation

def escape (c : Char) : List Char :=
  if c = '"' ∨ c = '\\' then ['\\', c] else [c]

/-- An argument in quotes. -/
def quote (a : List Char) : List Char :=
  '"' :: a.flatMap escape ++ ['"']

/-- A name with its arguments in quotes, a space before each. -/
def line (name : String) (args : List String) : String :=
  String.ofList (name.toList ++ args.flatMap fun a => ' ' :: quote a.toList)

/-- A character that begins neither a substitution nor a reference behind a dollar sign. -/
def Harmless (c : Char) : Prop :=
  c ≠ '(' ∧ c ≠ '\x7b' ∧ Text.isWord c = false

instance : DecidablePred Harmless := fun _ =>
  inferInstanceAs (Decidable (_ ∧ _ ∧ _))

/-- A text in which no dollar sign means anything. -/
def Calm (cs : List Char) : Prop :=
  cs.IsChain fun c d => c = '$' → Harmless d

instance : DecidablePred Calm := fun cs =>
  inferInstanceAs (Decidable (cs.IsChain fun c d => c = '$' → Harmless d))

/-- A name that needs no quotes. -/
structure Bare (name : String) : Prop where
  no_blank : ∀ c ∈ name.toList, Text.isBlank c = false
  no_quote : ∀ c ∈ name.toList, isQuote c = false
  no_backslash : '\\' ∉ name.toList
  no_dollar : '$' ∉ name.toList
  no_semicolon : ';' ∉ name.toList

theorem bare_iff {name : String} :
    Bare name ↔ ∀ c ∈ name.toList,
      Text.isBlank c = false ∧ isQuote c = false ∧ c ≠ '\\' ∧ c ≠ '$' ∧ c ≠ ';' := by
  constructor
  · intro h c hc
    refine ⟨h.no_blank c hc, h.no_quote c hc, ?_, ?_, ?_⟩
    · exact fun he => h.no_backslash (he ▸ hc)
    · exact fun he => h.no_dollar (he ▸ hc)
    · exact fun he => h.no_semicolon (he ▸ hc)
  · intro h
    refine ⟨fun c hc => (h c hc).1, fun c hc => (h c hc).2.1, ?_, ?_, ?_⟩
    · exact fun hc => (h _ hc).2.2.1 rfl
    · exact fun hc => (h _ hc).2.2.2.1 rfl
    · exact fun hc => (h _ hc).2.2.2.2 rfl

-- The instance is named: characters could be enumerated too, and that never ends.
instance : DecidablePred Bare := fun _ =>
  @decidable_of_iff' _ _ bare_iff (List.decidableBAll _ _)

/-- An argument that can be written in quotes: neither quotes nor backslashes keep semicolons,
substitutions and references from being read. -/
structure Quotable (a : String) : Prop where
  ne_empty : a ≠ ""
  no_semicolon : ';' ∉ a.toList
  calm : Calm a.toList

/-! ## Nothing to evaluate or to replace -/

section Calm

variable {c : Char} {cs rest : List Char}

theorem Calm.tail (h : Calm (c :: rest)) : Calm rest :=
  (List.isChain_cons.mp h).2

theorem Calm.head (h : Calm ('$' :: rest)) : ∀ d ∈ rest.head?, Harmless d :=
  fun d hd => (List.isChain_cons.mp h).1 d hd rfl

theorem Calm.cons_of_ne (hc : c ≠ '$') (h : Calm rest) : Calm (c :: rest) :=
  List.isChain_cons.mpr ⟨fun _ _ he => absurd he hc, h⟩

theorem Calm.append_of_not_mem (h : Calm rest) (hd : '$' ∉ cs) : Calm (cs ++ rest) := by
  induction cs with
  | nil => exact h
  | cons c cs ih =>
      simp only [List.mem_cons, not_or] at hd
      exact (ih hd.2).cons_of_ne (Ne.symm hd.1)

theorem Calm.not_opener (h : Calm (c :: rest)) : ∀ tail, c = '$' → rest = '(' :: tail → False := by
  rintro tail rfl rfl
  exact (h.head '(' rfl).1 rfl

theorem harmless_quote : Harmless '"' := ⟨by decide, by decide, by decide⟩

theorem harmless_backslash : Harmless '\\' := ⟨by decide, by decide, by decide⟩

theorem Calm.closedCount_eq_zero (h : Calm cs) : Substitution.closedCount cs = 0 := by
  induction cs with
  | nil => rfl
  | cons c rest ih => rw [Substitution.closedCount.eq_3 _ _ h.not_opener, ih h.tail]

theorem Calm.innermost?_eq_none (h : Calm cs) : Substitution.innermost? cs = none :=
  (Substitution.innermost?_eq_none_iff cs).mpr h.closedCount_eq_zero

theorem Calm.split_eq (h : Calm cs) : Piece.split cs = cs.map .plain := by
  induction cs with
  | nil => simp [Piece.split]
  | cons c rest ih =>
      by_cases hc : c = '$'
      · subst hc
        have hw : rest.takeWhile Text.isWord = [] := by
          cases rest with
          | nil => rfl
          | cons d rest => exact List.takeWhile_cons_of_neg (by simp [(h.head d rfl).2.2])
        have hb : Piece.braced? rest = none := by
          cases rest with
          | nil => rfl
          | cons d rest => exact Piece.braced?.eq_2 _ fun inner he =>
              (h.head d rfl).2.1 (List.cons.inj he).1
        rw [Piece.split, if_pos rfl, if_pos (by simp [hw])]
        split
        · rename_i hs
          rw [hb] at hs
          contradiction
        · rw [ih h.tail]
          rfl
      · rw [Piece.split, if_neg hc, ih h.tail]
        rfl

theorem Calm.expandChars_eq (h : Calm cs) (value? : List Char → Option (List Char)) :
    expandChars value? cs = cs := by
  rw [expandChars, h.split_eq, List.flatMap_map]
  simp [Piece.expand]

/-! ## Calm lines -/

theorem Calm.escaped {after : List Char} (h : Calm cs) (ha : Calm after)
    (hh : ∀ d ∈ after.head?, Harmless d) : Calm (cs.flatMap escape ++ after) := by
  induction cs with
  | nil => exact ha
  | cons c rest ih =>
      rw [List.flatMap_cons, List.append_assoc]
      have ht := ih h.tail
      by_cases hc : c = '"' ∨ c = '\\'
      · have hd : c ≠ '$' := by rcases hc with rfl | rfl <;> decide
        rw [escape, if_pos hc]
        exact (ht.cons_of_ne hd).cons_of_ne (by decide)
      · rw [escape, if_neg hc]
        refine List.isChain_cons.mpr ⟨?_, ht⟩
        rintro d hd rfl
        cases rest with
        | nil => exact hh d hd
        | cons e rest =>
            rw [List.flatMap_cons, List.append_assoc] at hd
            by_cases he : e = '"' ∨ e = '\\'
            · rw [escape, if_pos he] at hd
              cases hd
              exact harmless_backslash
            · rw [escape, if_neg he] at hd
              cases hd
              exact h.head _ rfl

theorem Calm.quoted {after : List Char} (h : Calm cs) (ha : Calm after) :
    Calm (' ' :: quote cs ++ after) := by
  have hq : Calm ('"' :: after) := ha.cons_of_ne (by decide)
  have he := h.escaped hq fun d hd => by cases hd; exact harmless_quote
  simpa [quote] using (he.cons_of_ne (by decide : '"' ≠ '$')).cons_of_ne (by decide : ' ' ≠ '$')

theorem calm_arguments {args : List String} (h : ∀ a ∈ args, Quotable a) :
    Calm (args.flatMap fun a => ' ' :: quote a.toList) := by
  induction args with
  | nil => exact .nil
  | cons a rest ih =>
      rw [List.forall_mem_cons] at h
      exact h.1.calm.quoted (ih h.2)

theorem calm_line {name : String} {args : List String} (hn : Bare name)
    (h : ∀ a ∈ args, Quotable a) : Calm (line name args).toList := by
  rw [line, String.toList_ofList]
  exact (calm_arguments h).append_of_not_mem hn.no_dollar

end Calm

/-! ## The words of a line -/

section Words

theorem Bare.not_escapable {name : String} (h : Bare name) :
    ∀ c ∈ name.toList, isEscapable c = false := by
  intro c hc
  have hq := h.no_quote c hc
  have hb : c ≠ '\\' := fun he => h.no_backslash (he ▸ hc)
  have hs : c ≠ ' ' := by
    rintro rfl
    exact absurd (h.no_blank _ hc) (by decide)
  simp_all [isQuote, isEscapable]

/-- An argument in quotes is a fragment of a word. -/
theorem quote_eq_text (a : List Char) : quote a = Rendering.Fragment.text ⟨.double, a⟩ := by
  have he : escape = Rendering.Style.double.escape := by
    funext c
    simp [escape, Rendering.Style.escape, Rendering.Style.escapes]
  rw [quote, he]
  rfl

theorem scan_quote (cs rest : List Char) :
    Token.scan none (quote cs ++ rest) =
      (cs ++ (Token.scan none rest).1, (Token.scan none rest).2) := by
  rw [quote_eq_text, Rendering.scan_fragment]

theorem exists_cons_of_ne_empty {s : String} (h : s ≠ "") : ∃ c rest, s.toList = c :: rest :=
  List.exists_cons_of_ne_nil fun hn => h (String.toList_eq_nil_iff.mp hn)

theorem emit_toList {s : String} (h : s ≠ "") (later : List (List Char)) :
    Token.emit (s.toList, later) = s.toList :: later :=
  Rendering.emit_of_ne_nil (by simpa using h) later

theorem scan_arguments {args : List String} (h : ∀ a ∈ args, a ≠ "") :
    Token.scan none (args.flatMap fun a => ' ' :: quote a.toList) =
      ([], args.map String.toList) := by
  induction args with
  | nil => rfl
  | cons a rest ih =>
      rw [List.forall_mem_cons] at h
      rw [List.flatMap_cons, List.cons_append, Rendering.scan_space, scan_quote, ih h.2,
        List.append_nil, emit_toList h.1, List.map_cons]

/-- The words of a line are the name and the arguments that it was made of. -/
theorem words_line {name : String} {args : List String} (hn : Bare name) (hne : name ≠ "")
    (h : ∀ a ∈ args, a ≠ "") : tokenize (line name args) = name :: args := by
  have hs : Token.scan none (line name args).toList = (name.toList, args.map String.toList) := by
    rw [line, String.toList_ofList, Rendering.scan_plain hn.not_escapable, scan_arguments h,
      List.append_nil]
  rw [tokenize, words, hs, emit_toList hne, List.map_cons, String.ofList_toList, List.map_map]
  simp [Function.comp_def]

end Words

/-! ## A line as a statement -/

section Statement

variable {name : String} {args : List String}

theorem semicolon_not_mem_line (hn : Bare name) (h : ∀ a ∈ args, Quotable a) :
    ';' ∉ (line name args).toList := by
  rw [line, String.toList_ofList, List.mem_append, not_or]
  refine ⟨hn.no_semicolon, ?_⟩
  intro hm
  obtain ⟨a, ha, hm⟩ := List.mem_flatMap.mp hm
  simp only [quote, List.mem_cons, List.mem_append, List.mem_flatMap, List.not_mem_nil, or_false,
    (by decide : ';' ≠ ' '), (by decide : ';' ≠ '"'), false_or] at hm
  obtain ⟨c, hc, hm⟩ := hm
  have hs : ';' = c := by
    rw [escape] at hm
    split at hm <;> simpa using hm
  exact (h a ha).no_semicolon (hs ▸ hc)

/-- A line ends with the name or with a quote. -/
theorem getLast?_line (name : String) (args : List String) :
    ∀ c ∈ (line name args).toList.getLast?, c ∈ name.toList ∨ c = '"' := by
  intro c hc
  rw [line, String.toList_ofList] at hc
  rcases args.eq_nil_or_concat with rfl | ⟨front, a, rfl⟩
  · rw [List.flatMap_nil, List.append_nil] at hc
    exact .inl (List.mem_of_getLast? hc)
  · have hl : name.toList ++ (front ++ [a]).flatMap (fun a => ' ' :: quote a.toList) =
        name.toList ++ front.flatMap (fun a => ' ' :: quote a.toList) ++
          ' ' :: '"' :: a.toList.flatMap escape ++ ['"'] := by
      simp [quote]
    rw [List.concat_eq_append, hl, List.getLast?_concat] at hc
    exact .inr (Option.some.inj hc).symm

theorem trim_line (hn : Bare name) (hne : name ≠ "") :
    Text.Chars.trim (line name args).toList = (line name args).toList := by
  apply Text.Chars.trim_eq_self
  · intro c hc
    obtain ⟨d, rest, hd⟩ := exists_cons_of_ne_empty hne
    rw [line, String.toList_ofList, hd] at hc
    cases hc
    exact hn.no_blank c (by simp [hd])
  · intro c hc
    rcases getLast?_line name args c hc with hm | rfl
    · exact hn.no_blank c hm
    · decide

theorem line_ne_nil (hne : name ≠ "") : (line name args).toList ≠ [] := by
  simp [line, hne]

theorem isBlankText_line (hn : Bare name) (hne : name ≠ "") :
    Text.isBlankText (line name args) = false := by
  obtain ⟨d, rest, hd⟩ := exists_cons_of_ne_empty hne
  rw [Text.isBlankText, line, String.toList_ofList, hd]
  simp [hn.no_blank d (by simp [hd])]

end Statement

end Quotation

end CommandShell.Syntax
