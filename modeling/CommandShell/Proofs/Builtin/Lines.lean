import CommandShell.Proofs.Files.Content

/-!
Files that hold lines. A text is cut at its marks, each line is written with an end, and reading
gives the same lines again, those that were there before first.
-/

namespace CommandShell

/-! ## Lines with their ends -/

namespace Text.Chars

theorem lines_append_newline {line : List Char} (h : ∀ c ∈ line, isLineEnd c = false)
    (rest : List Char) : lines (line ++ '\n' :: rest) = line :: lines rest := by
  induction line with
  | nil =>
      rw [List.nil_append, lines.eq_3 _ _ (by simp), if_pos (by decide)]
  | cons c line ih =>
      rw [List.forall_mem_cons] at h
      have hr : c ≠ '\r' := by
        rintro rfl
        exact absurd h.1 (by decide)
      rw [List.cons_append, lines.eq_3 _ _ (fun _ he => absurd he hr), if_neg (by simp [h.1]),
        ih h.2]

end Text.Chars

namespace Builtin.File

open Text (IsText EncodeFault isLineEnd)

/-! ## Texts cut into lines -/

/-- A text cut at each backslash with an n behind it. -/
structure IsCut (text : String) (ls : List String) : Prop where
  joined : String.intercalate "\\n" ls = text
  no_mark : ∀ l ∈ ls, ¬ "\\n".toList <:+: l.toList

/-- The lines that a text makes. The empty text makes none. -/
def Makes (text : String) (ls : List String) : Prop :=
  if text = "" then ls = [] else IsCut text ls

/-- A line together with its end. -/
def ended (l : String) : String :=
  l ++ "\n"

section Pieces

variable {cs : List Char} {text l m : String} {ls : List String}

theorem pieces_cons_of_not_mark {c : Char} {rest : List Char}
    (h : ∀ rest', c = '\\' → rest = 'n' :: rest' → False) {piece : List Char}
    {others : List (List Char)} (hp : pieces rest = piece :: others) :
    pieces (c :: rest) = (c :: piece) :: others := by
  rw [pieces.eq_3 _ _ h, hp]

theorem not_mark_of_unmarked {c : Char} {rest : List Char} (h : ¬ ['\\', 'n'] <:+: c :: cs)
    (hr : cs = [] → ∀ rest', rest ≠ 'n' :: rest') :
    ∀ rest', c = '\\' → cs ++ rest = 'n' :: rest' → False := by
  rintro rest' rfl he
  cases cs with
  | nil => exact hr rfl rest' he
  | cons d cs =>
      obtain ⟨rfl, -⟩ := List.cons.inj he
      exact h ⟨[], cs, rfl⟩

theorem not_infix_tail {c : Char} (h : ¬ ['\\', 'n'] <:+: c :: cs) : ¬ ['\\', 'n'] <:+: cs :=
  fun hi => h (hi.trans (List.suffix_cons c cs).isInfix)

theorem pieces_of_unmarked (h : ¬ ['\\', 'n'] <:+: cs) : pieces cs = [cs] := by
  induction cs with
  | nil => rfl
  | cons c rest ih =>
      refine pieces_cons_of_not_mark ?_ (ih (not_infix_tail h))
      rw [← List.append_nil rest]
      exact not_mark_of_unmarked h (by simp)

theorem pieces_append_mark (h : ¬ ['\\', 'n'] <:+: cs) (rest : List Char) :
    pieces (cs ++ '\\' :: 'n' :: rest) = cs :: pieces rest := by
  induction cs with
  | nil => rfl
  | cons c cs ih =>
      exact pieces_cons_of_not_mark (not_mark_of_unmarked h (by simp)) (ih (not_infix_tail h))

theorem toList_intercalate_cons (l m : String) (ls : List String) :
    (String.intercalate "\\n" (l :: m :: ls)).toList =
      l.toList ++ '\\' :: 'n' :: (String.intercalate "\\n" (m :: ls)).toList := by
  rw [String.intercalate_cons_of_ne_nil (List.cons_ne_nil m ls)]
  simp

theorem pieces_of_isCut (h : IsCut text ls) (hn : ls ≠ []) :
    pieces text.toList = ls.map String.toList := by
  obtain ⟨rfl, hm⟩ := h
  induction ls with
  | nil => contradiction
  | cons l ls ih =>
      rw [List.forall_mem_cons] at hm
      cases ls with
      | nil => simpa using pieces_of_unmarked hm.1
      | cons m ls =>
          rw [toList_intercalate_cons, pieces_append_mark hm.1, ih (List.cons_ne_nil _ _) hm.2]
          rfl

/-- What is written for a text are the lines that it makes, with their ends. -/
theorem Makes.content_eq (h : Makes text ls) : content text.toList = ls.map ended := by
  rw [Makes] at h
  split at h
  · next ht =>
      rw [ht, h]
      rfl
  · next ht =>
      have hn : ls ≠ [] := by
        rintro rfl
        exact ht h.joined.symm
      rw [content, if_neg (by simpa using ht), pieces_of_isCut h hn, List.map_map]
      refine List.map_congr_left fun l _ => ?_
      simp [ended, String.ofList_append]

theorem isText_intercalate (h : IsText (String.intercalate "\\n" ls).toList) :
    ∀ l ∈ ls, IsText l.toList := by
  induction ls with
  | nil => simp
  | cons l ls ih =>
      cases ls with
      | nil => simpa using h
      | cons m ls =>
          rw [toList_intercalate_cons] at h
          obtain ⟨hl, hr⟩ := h.of_cut (by decide)
          rw [List.forall_mem_cons]
          rw [← List.nil_append ('n' :: _)] at hr
          exact ⟨hl, ih (hr.of_cut (by decide)).2⟩

theorem mem_intercalate (hl : l ∈ ls) {c : Char} (hc : c ∈ l.toList) :
    c ∈ (String.intercalate "\\n" ls).toList := by
  induction ls with
  | nil => cases hl
  | cons m ls ih =>
      cases ls with
      | nil =>
          rw [List.mem_singleton] at hl
          simpa [hl] using hc
      | cons m' ls =>
          rw [toList_intercalate_cons]
          rcases List.mem_cons.mp hl with rfl | hl
          · exact List.mem_append_left _ hc
          · exact List.mem_append_right _ (List.mem_cons_of_mem _ (List.mem_cons_of_mem _ (ih hl)))

end Pieces

/-! ## The text of some lines -/

/-- A line that can be written and read again. -/
structure Legible (l : String) : Prop where
  isText : IsText l.toList
  encodes : EncodeFault.find? l.toList = none
  no_end : ∀ c ∈ l.toList, isLineEnd c = false

/-- The text that lines make with their ends. -/
def body (ls : List String) : String :=
  String.ofList (ls.flatMap fun l => l.toList ++ ['\n'])

section Body

variable {ls ms : List String}

@[simp] theorem toList_body (ls : List String) :
    (body ls).toList = ls.flatMap fun l => l.toList ++ ['\n'] :=
  String.toList_ofList

theorem body_cons (l : String) (ls : List String) : body (l :: ls) = ended l ++ body ls := by
  simp [body, ended, String.ofList_append, String.append_assoc]

theorem body_append (ls ms : List String) : body (ls ++ ms) = body ls ++ body ms := by
  simp [body, String.ofList_append]

theorem isText_newline : IsText ['\n'] := .of_forall (by simp [Text.Code.setAside])

theorem isText_ended {l : String} (h : IsText l.toList) : IsText (ended l).toList := by
  rw [ended, String.toList_append]
  exact h.append isText_newline

theorem isText_body (h : ∀ l ∈ ls, IsText l.toList) : IsText (body ls).toList := by
  induction ls with
  | nil => exact ⟨[], by simp, rfl⟩
  | cons l ls ih =>
      rw [List.forall_mem_cons] at h
      rw [body_cons, String.toList_append]
      exact (isText_ended h.1).append (ih h.2)

theorem find?_ended {l : String} (h : IsText l.toList) :
    EncodeFault.find? (ended l).toList = none ↔ EncodeFault.find? l.toList = none := by
  rw [ended, String.toList_append, EncodeFault.find?_append h]
  exact and_iff_left (by decide)

theorem find?_body (h : ∀ l ∈ ls, Legible l) : EncodeFault.find? (body ls).toList = none := by
  induction ls with
  | nil => decide
  | cons l ls ih =>
      rw [List.forall_mem_cons] at h
      rw [body_cons, String.toList_append, EncodeFault.find?_append (isText_ended h.1.isText)]
      exact ⟨(find?_ended h.1.isText).mpr h.1.encodes, ih h.2⟩

/-- Lines that are all encoded are written as one text. -/
theorem encode_ended (h : ∀ l ∈ ls, IsText l.toList)
    (he : (Disk.encode (ls.map ended)).2 = none) :
    (∀ l ∈ ls, EncodeFault.find? l.toList = none) ∧
      (Disk.encode (ls.map ended)).1 = Text.bytes (body ls) := by
  induction ls with
  | nil => exact ⟨by simp, by decide⟩
  | cons l ls ih =>
      rw [List.forall_mem_cons] at h ⊢
      rw [List.map_cons, Disk.encode] at he ⊢
      cases hf : EncodeFault.find? (ended l).toList with
      | some f => simp [hf] at he
      | none =>
          simp only [hf] at he ⊢
          obtain ⟨hls, hb⟩ := ih h.2 he
          refine ⟨⟨(find?_ended h.1).mp hf, hls⟩, ?_⟩
          rw [hb, body_cons, Text.bytes_append (isText_ended h.1)]

theorem lines_body (h : ∀ l ∈ ls, Legible l) :
    Text.lines (Text.unifyNewlines (body ls)) = ls := by
  have hr : '\r' ∉ (body ls).toList := by
    rw [toList_body, List.mem_flatMap]
    rintro ⟨l, hl, hm⟩
    rcases List.mem_append.mp hm with hm | hm
    · exact absurd ((h l hl).no_end _ hm) (by decide)
    · exact absurd hm (by decide)
  have hl : Text.Chars.lines (ls.flatMap fun l => l.toList ++ ['\n']) = ls.map String.toList := by
    clear hr
    induction ls with
    | nil => rfl
    | cons l ls ih =>
        rw [List.forall_mem_cons] at h
        rw [List.flatMap_cons, List.append_assoc, List.singleton_append,
          Text.Chars.lines_append_newline h.1.no_end, ih h.2, List.map_cons]
  rw [Text.lines, Text.unifyNewlines, String.toList_ofList, Text.Chars.unifyNewlines_eq_self hr,
    toList_body, hl, List.map_map]
  simp [Function.comp_def]

end Body

/-! ## The file -/

/-- Whether a path leads to a file with some lines and nothing else in it. -/
structure Holds (d : Disk) (p : Path) (ls : List String) : Prop where
  bytes : d.readBytes p = .ok (Text.bytes (body ls))
  legible : ∀ l ∈ ls, Legible l

section Holds

variable {d d' : Disk} {p : Path} {append : Bool} {ls ms : List String} {text : String}

theorem Holds.of_empty (h : d.readBytes p = .ok .empty) : Holds d p [] :=
  ⟨h, by simp⟩

/-- What is written begins the file anew or follows what it holds. -/
theorem Holds.store (h : Holds d p ls) (hl : ∀ l ∈ ms, IsText l.toList)
    (he : ∀ l ∈ ms, ∀ c ∈ l.toList, isLineEnd c = false)
    (hs : store d p append (ms.map ended) = (.ok (), d')) :
    Holds d' p (if append then ls ++ ms else ms) := by
  obtain ⟨hf, hb⟩ := store_ok_of_readBytes h.bytes hs
  obtain ⟨hfind, hbytes⟩ := encode_ended hl hf
  have hms : ∀ l ∈ ms, Legible l := fun l hm => ⟨hl l hm, hfind l hm, he l hm⟩
  rw [hbytes] at hb
  cases append with
  | true =>
      refine ⟨?_, fun l hm => (List.mem_append.mp hm).elim (h.legible l) (hms l)⟩
      rw [if_pos rfl] at hb ⊢
      rw [hb, body_append, Text.bytes_append (isText_body fun l hm => (h.legible l hm).isText)]
  | false =>
      refine ⟨?_, hms⟩
      rw [hb]
      exact congrArg _ ByteArray.empty_append

theorem Holds.of_store (hr : d.Rooted) (hu : ".." ∉ p.parts) (hn : d.exists? p = .ok false)
    (hl : ∀ l ∈ ms, IsText l.toList) (he : ∀ l ∈ ms, ∀ c ∈ l.toList, isLineEnd c = false)
    (hs : File.store d p append (ms.map ended) = (.ok (), d')) : Holds d' p ms := by
  obtain ⟨hf, hb⟩ := store_ok_of_not_exists hr hu hn hs
  obtain ⟨hfind, hbytes⟩ := encode_ended hl hf
  exact ⟨hbytes ▸ hb, fun l hm => ⟨hl l hm, hfind l hm, he l hm⟩⟩

theorem Holds.readLines_eq (h : Holds d p ls) : readLines d p = .ok ls := by
  have hd := Text.Utf8.decode_bytes (isText_body fun l hm => (h.legible l hm).isText)
    (find?_body h.legible)
  rw [readLines, Disk.readText, h.bytes]
  simp only [hd, lines_body h.legible]

end Holds

end Builtin.File

end CommandShell
