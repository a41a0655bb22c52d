import CommandShell.Columns
import CommandShell.Proofs.Text.Encoding
import Mathlib.Data.List.DropRight

/-!
Entries set in columns and read again. On a line every entry is filled up to the width of a column,
so a line cut at that width gives its entries, and the columns read downwards give all of them.
-/

namespace CommandShell

namespace Text

/-! ## Blanks at the end -/

namespace Chars

variable {c : Char} {cs bs : List Char}

theorem trimRight_append_of_blank (cs : List Char) (h : ∀ c ∈ bs, isBlank c = true) :
    trimRight (cs ++ bs) = trimRight cs := by
  rw [trimRight, List.reverse_append, List.dropWhile_append_of_pos (by simpa using h)]
  rfl

theorem exists_eq_trimRight (cs : List Char) :
    ∃ bs, (∀ c ∈ bs, isBlank c = true) ∧ cs = trimRight cs ++ bs := by
  refine ⟨cs.rtakeWhile isBlank, fun c => List.mem_rtakeWhile_imp, ?_⟩
  rw [trimRight, List.rtakeWhile, ← List.reverse_append, List.takeWhile_append_dropWhile,
    List.reverse_reverse]

theorem lt_setAside_of_isBlank (h : isBlank c = true) : c.toNat < Code.setAside := by
  simp only [isBlank, blankRanges, inRanges] at h
  simp only [Code.setAside]
  grind

end Chars

/-- A text without the blanks at its end. -/
def trimEnd (s : String) : String :=
  String.ofList (Chars.trimRight s.toList)

/-! ## Code points -/

section Codes

variable {cs bs : List Char}

theorem IsText.trimRight (h : IsText cs) : IsText (Chars.trimRight cs) := by
  obtain ⟨bs, hb, he⟩ := Chars.exists_eq_trimRight cs
  cases bs with
  | nil =>
      rw [List.append_nil] at he
      exact he ▸ h
  | cons b bs =>
      rw [he] at h
      exact (h.of_cut (Chars.lt_setAside_of_isBlank (hb b List.mem_cons_self))).1

theorem size_append (h : IsText cs) (ds : List Char) : size (cs ++ ds) = size cs + size ds := by
  rw [size, codes_append h, List.length_append]
  rfl

theorem size_trimRight_le (h : IsText cs) : size (Chars.trimRight cs) ≤ size cs := by
  obtain ⟨bs, -, he⟩ := Chars.exists_eq_trimRight cs
  conv_rhs => rw [he, size_append h.trimRight]
  exact Nat.le_add_right _ _

/-- Blanks come off the end of some code points in the middle of a text whether or not those at the
end of the text itself are there. -/
theorem trimRight_ofCodes_trimRight (h : IsText cs) (start count : Nat) :
    Chars.trimRight (ofCodes (((codes (Chars.trimRight cs)).drop start).take count)) =
      Chars.trimRight (ofCodes (((codes cs).drop start).take count)) := by
  obtain ⟨bs, hb, he⟩ := Chars.exists_eq_trimRight cs
  have hlt : ∀ c ∈ bs, c.toNat < Code.setAside := fun c hc => Chars.lt_setAside_of_isBlank (hb c hc)
  generalize hl : (codes (Chars.trimRight cs)).length = l
  let cut := (bs.drop (start - l)).take (count - (l - start))
  have hcut : ∀ c ∈ cut, c ∈ bs := fun c hc => List.mem_of_mem_drop (List.mem_of_mem_take hc)
  have hcodes : ofCodes (cut.map Char.toNat) = cut := by
    have hcut' : ∀ c ∈ cut, c.toNat < Code.setAside := fun c hc => hlt c (hcut c hc)
    rw [← codes_of_forall hcut', (IsText.of_forall hcut').ofCodes_codes]
  have hsplit : ((codes cs).drop start).take count =
      ((codes (Chars.trimRight cs)).drop start).take count ++ cut.map Char.toNat := by
    conv_lhs => rw [he, codes_append h.trimRight, codes_of_forall hlt]
    rw [List.drop_append, List.take_append, List.length_drop, hl, ← List.map_drop, ← List.map_take]
  rw [hsplit, ofCodes, ofCodes, List.flatMap_append]
  refine (Chars.trimRight_append_of_blank _ fun c hc => hb c (hcut c ?_)).symm
  rwa [← hcodes]

theorem codes_flatMap {α : Type} {f : α → List Char} {xs : List α} (h : ∀ x ∈ xs, IsText (f x)) :
    codes (xs.flatMap f) = xs.flatMap fun x => codes (f x) := by
  induction xs with
  | nil => rfl
  | cons x rest ih =>
      rw [List.forall_mem_cons] at h
      rw [List.flatMap_cons, List.flatMap_cons, codes_append h.1, ih h.2]

theorem isText_flatMap {α : Type} {f : α → List Char} {xs : List α} (h : ∀ x ∈ xs, IsText (f x)) :
    IsText (xs.flatMap f) := by
  induction xs with
  | nil => exact ⟨[], by simp, rfl⟩
  | cons x rest ih =>
      rw [List.forall_mem_cons] at h
      exact h.1.append (ih h.2)

end Codes

/-! ## Filling up -/

section Padded

variable {s : String} {width : Nat}

theorem toList_padRight (width : Nat) (s : String) :
    (padRight width s).toList = s.toList ++ List.replicate (width - length s) ' ' := by
  rw [padRight, String.toList_append, String.toList_ofList]

theorem isBlank_filling (n : Nat) : ∀ c ∈ List.replicate n ' ', isBlank c = true := by
  intro c hc
  rw [List.eq_of_mem_replicate hc]
  decide

theorem filling_lt (n : Nat) : ∀ c ∈ List.replicate n ' ', c.toNat < Code.setAside :=
  fun c hc => Chars.lt_setAside_of_isBlank (isBlank_filling n c hc)

theorem IsText.padRight (h : IsText s.toList) (width : Nat) :
    IsText (Text.padRight width s).toList := by
  rw [toList_padRight]
  exact h.append (.of_forall (filling_lt _))

theorem length_padRight (h : IsText s.toList) (hw : length s ≤ width) :
    length (padRight width s) = width := by
  have hsize : size (List.replicate (width - length s) ' ') = width - length s := by
    rw [size, codes_of_forall (filling_lt _), List.length_map, List.length_replicate]
  rw [length, toList_padRight, size_append h, hsize]
  exact Nat.add_sub_of_le hw

/-- The last of some texts that are filled up and set side by side needs no filling. -/
theorem size_trimRight_padded {before : List String} {last : String}
    (hb : ∀ s ∈ before, IsText s.toList ∧ length s ≤ width) (hl : IsText last.toList) :
    size (Chars.trimRight ((before ++ [last]).flatMap fun s => (padRight width s).toList)) ≤
      before.length * width + length last := by
  have hfront : IsText (before.flatMap fun s => (padRight width s).toList) ∧
      size (before.flatMap fun s => (padRight width s).toList) = before.length * width := by
    induction before with
    | nil => exact ⟨⟨[], by simp, rfl⟩, by simp [size, codes]⟩
    | cons s rest ih =>
        rw [List.forall_mem_cons] at hb
        obtain ⟨ht, hs⟩ := ih hb.2
        have hp : IsText (padRight width s).toList := hb.1.1.padRight width
        have hw : size (padRight width s).toList = width := length_padRight hb.1.1 hb.1.2
        rw [List.flatMap_cons, size_append hp, hs, hw, List.length_cons, Nat.succ_mul, Nat.add_comm]
        exact ⟨hp.append ht, rfl⟩
  obtain ⟨ht, hs⟩ := hfront
  rw [List.flatMap_append, List.flatMap_singleton, toList_padRight, ← List.append_assoc,
    Chars.trimRight_append_of_blank _ (isBlank_filling _), ← hs, length, ← size_append ht]
  exact size_trimRight_le (ht.append hl)

theorem trimEnd_padRight (width : Nat) (s : String) : trimEnd (padRight width s) = trimEnd s := by
  rw [trimEnd, toList_padRight, Chars.trimRight_append_of_blank _ (isBlank_filling _)]
  rfl

end Padded

end Text

namespace Columns

open Text (IsText codes ofCodes trimEnd)

/-! ## Cutting -/

section Cut

variable {α : Type}

/-- Blocks of one length are found again by cutting what they make together. -/
theorem take_drop_flatten {blocks : List (List α)} {n : Nat} (h : ∀ b ∈ blocks, b.length = n)
    (i : Nat) : (blocks.flatten.drop (i * n)).take n = blocks[i]?.getD [] := by
  induction blocks generalizing i with
  | nil => simp
  | cons b rest ih =>
      rw [List.forall_mem_cons] at h
      cases i with
      | zero => simp [← h.1]
      | succ i =>
          rw [List.flatten_cons, Nat.succ_mul, Nat.add_comm, ← List.drop_drop, ← h.1,
            List.drop_left, h.1, ih h.2]
          rfl

/-- What a list of places gives ends where they begin to give nothing. -/
theorem getElem?_filterMap_range' {f : Nat → Option α} (hf : ∀ i, f i = none → f (i + 1) = none)
    (start count i : Nat) :
    ((List.range' start count).filterMap f)[i]? = if i < count then f (start + i) else none := by
  induction count generalizing start i with
  | zero => simp
  | succ count ih =>
      rw [List.range'_succ]
      cases hs : f start with
      | none =>
          have hnone : ∀ j, f (start + j) = none := by
            intro j
            induction j with
            | zero => exact hs
            | succ j ihj => exact hf _ ihj
          rw [List.filterMap_cons_none hs, ih]
          simp [Nat.add_assoc, hnone]
      | some a =>
          rw [List.filterMap_cons_some hs]
          cases i with
          | zero => simp [hs]
          | succ i =>
              rw [List.getElem?_cons_succ, ih]
              simp [Nat.add_assoc, Nat.add_comm 1]

end Cut

/-- What stands in a column of a line. -/
def cell (width column : Nat) (line : String) : String :=
  trimEnd (String.ofList (ofCodes (((codes line.toList).drop (column * width)).take width)))

/-- What stands in some columns of lines, read downwards first. -/
def readDown (width columns : Nat) (lines : List String) : List String :=
  (List.range columns).flatMap fun column => lines.map (cell width column)

/-! ## Measures -/

section Measures

variable {entries : List String} {width : Int} {row : Nat}

theorem length_le_longest {e : String} (h : e ∈ entries) : Text.length e ≤ longest entries := by
  rw [longest, List.foldl_max]
  exact (List.le_max?_getD_of_mem (List.mem_map_of_mem h)).trans (Nat.le_max_right _ _)

theorem columns_pos (entries : List String) (width : Int) : 0 < (grid entries width).columns := by
  simp only [grid]
  omega

theorem rows_pos (h : entries ≠ []) (width : Int) : 0 < (grid entries width).rows := by
  have hn : 0 < entries.length := List.length_pos_iff.mpr h
  have hc : 0 < (grid entries width).columns := columns_pos entries width
  exact Nat.div_pos (by omega) hc

/-- There is a place for every entry. -/
theorem length_le_columns_mul_rows (entries : List String) (width : Int) :
    entries.length ≤ (grid entries width).columns * (grid entries width).rows := by
  have hc : 0 < (grid entries width).columns := columns_pos entries width
  have hd := Nat.div_add_mod (entries.length + (grid entries width).columns - 1)
    (grid entries width).columns
  have hm := Nat.mod_lt (entries.length + (grid entries width).columns - 1) hc
  have hr : (grid entries width).rows = (entries.length + (grid entries width).columns - 1) /
    (grid entries width).columns := rfl
  rw [← hr] at hd
  omega

/-- Columns that are not alone fit into the width. -/
theorem columns_mul_cell_le (h : 1 < (grid entries width).columns) :
    (((grid entries width).columns * (grid entries width).cell : Nat) : Int) ≤ width := by
  have hc : ((grid entries width).columns : Int) = width / ((grid entries width).cell : Int) := by
    simp only [grid] at h ⊢
    omega
  rw [Int.natCast_mul, hc]
  exact Int.ediv_mul_le _ (Int.natCast_ne_zero.mpr (Nat.succ_ne_zero _))

end Measures

/-! ## Lines -/

section Line

variable {entries : List String} {width : Int} {row column : Nat}

/-- The entries on a line are those that are as many rows apart as there are. -/
theorem getElem?_cells (entries : List String) (width : Int) (row column : Nat) :
    ((grid entries width).cells entries row)[column]? =
      entries[row + column * (grid entries width).rows]? := by
  have hmono : ∀ i, entries[row + i * (grid entries width).rows]? = none →
      entries[row + (i + 1) * (grid entries width).rows]? = none := by
    intro i hi
    rw [List.getElem?_eq_none_iff] at hi ⊢
    exact hi.trans (Nat.add_le_add_left (Nat.mul_le_mul_right _ (Nat.le_succ i)) row)
  rw [Grid.cells, List.range_eq_range', getElem?_filterMap_range' hmono, Nat.zero_add]
  split
  · rfl
  · next hc =>
      have hle := Nat.mul_le_mul_right (grid entries width).rows (Nat.le_of_not_lt hc)
      have hlen := length_le_columns_mul_rows entries width
      exact (List.getElem?_eq_none (by omega)).symm

theorem mem_of_mem_cells {g : Grid} {e : String} (h : e ∈ g.cells entries row) : e ∈ entries := by
  obtain ⟨column, -, hc⟩ := List.mem_filterMap.mp h
  exact List.mem_of_getElem? hc

variable (ht : ∀ e ∈ entries, IsText e.toList)
include ht

theorem isText_cells {e : String} (h : e ∈ (grid entries width).cells entries row) :
    IsText (Text.padRight (grid entries width).cell e).toList :=
  (ht e (mem_of_mem_cells h)).padRight _

theorem length_padded {e : String} (h : e ∈ (grid entries width).cells entries row) :
    Text.length (Text.padRight (grid entries width).cell e) = (grid entries width).cell := by
  have hm := mem_of_mem_cells h
  exact Text.length_padRight (ht e hm) ((length_le_longest hm).trans (Nat.le_add_right _ 2))

/-- Each column of a line holds its entry, or nothing behind the last one. -/
theorem cell_line (width : Int) (row column : Nat) :
    cell (grid entries width).cell column ((grid entries width).line entries row) =
      trimEnd (entries[row + column * (grid entries width).rows]?.getD "") := by
  let g := grid entries width
  let padded := fun e => (Text.padRight g.cell e).toList
  have htext : ∀ e ∈ g.cells entries row, IsText (padded e) := fun e he => isText_cells ht he
  have hlen : ∀ block ∈ (g.cells entries row).map fun e => codes (padded e),
      block.length = g.cell := by
    intro block hb
    obtain ⟨e, he, rfl⟩ := List.mem_map.mp hb
    exact length_padded ht he
  have hline : (g.line entries row).toList =
      Text.Chars.trimRight ((g.cells entries row).flatMap padded) :=
    String.toList_ofList
  rw [cell, hline, trimEnd, String.toList_ofList,
    Text.trimRight_ofCodes_trimRight (Text.isText_flatMap htext), Text.codes_flatMap htext,
    List.flatMap_def, take_drop_flatten hlen, List.getElem?_map, getElem?_cells]
  cases he : entries[row + column * g.rows]? with
  | none => rfl
  | some e =>
      have hm : e ∈ g.cells entries row :=
        List.mem_of_getElem? ((getElem?_cells entries width row column).trans he)
      rw [Option.map_some, Option.getD_some, (htext e hm).ofCodes_codes, Option.getD_some,
        ← Text.trimEnd_padRight g.cell e]
      rfl

/-- The entries of a line but the last fill their columns, and the columns fit into the width. -/
theorem length_line_le (width : Int) (row : Nat) :
    (Text.length ((grid entries width).line entries row) : Int) ≤ max width (longest entries) := by
  have hw : (grid entries width).cell = longest entries + 2 := rfl
  have hcount : ((grid entries width).cells entries row).length ≤ (grid entries width).columns :=
    (List.length_filterMap_le _ _).trans List.length_range.le
  have hmem : ∀ e ∈ (grid entries width).cells entries row,
      IsText e.toList ∧ Text.length e ≤ longest entries := fun e he =>
    ⟨ht e (mem_of_mem_cells he), length_le_longest (mem_of_mem_cells he)⟩
  rw [Text.length, Grid.line, String.toList_ofList]
  generalize (grid entries width).cells entries row = cells at hcount hmem
  rcases List.eq_nil_or_concat' cells with rfl | ⟨before, last, rfl⟩
  · have hz : Text.size (Text.Chars.trimRight []) = 0 := rfl
    rw [List.flatMap_nil, hz]
    omega
  · obtain ⟨hl, hlast⟩ := hmem last (by simp)
    have hbefore : ∀ e ∈ before, IsText e.toList ∧ Text.length e ≤ (grid entries width).cell := by
      intro e he
      have hm := hmem e (by simp [he])
      exact ⟨hm.1, hm.2.trans (Nat.le_add_right _ 2)⟩
    have hsize := Text.size_trimRight_padded hbefore hl
    rw [List.length_append, List.length_singleton] at hcount
    rcases Nat.lt_or_ge 1 (grid entries width).columns with hc | hc
    · have hfit := columns_mul_cell_le hc
      have hle := Nat.mul_le_mul_right (grid entries width).cell hcount
      rw [Nat.succ_mul] at hle
      omega
    · have hnone : before.length = 0 := by omega
      rw [hnone, Nat.zero_mul] at hsize
      omega

end Line

/-! ## The whole layout -/

section Layout

variable {entries : List String} {width : Int}

theorem layOut_eq (h : entries ≠ []) (width : Int) :
    layOut entries width =
      (List.range (grid entries width).rows).map ((grid entries width).line entries) := by
  rw [layOut, if_neg (by simpa using h)]

/-- What is numbered downwards first comes in order when it is read downwards first. -/
theorem flatMap_range_map_range {α : Type} (f : Nat → α) (columns rows : Nat) :
    ((List.range columns).flatMap fun column =>
        (List.range rows).map fun row => f (row + column * rows)) =
      (List.range (columns * rows)).map f := by
  induction columns with
  | zero => simp
  | succ columns ih =>
      rw [List.range_succ, List.flatMap_append, ih, List.flatMap_singleton, Nat.succ_mul,
        List.range_add, List.map_append, List.map_map]
      congr 1
      exact List.map_congr_left fun row _ => congrArg f (Nat.add_comm _ _)

theorem map_getD_range {α : Type} (xs : List α) (a : α) {n : Nat} (h : xs.length ≤ n) :
    ((List.range n).map fun i => xs[i]?.getD a) = xs ++ List.replicate (n - xs.length) a := by
  obtain ⟨more, rfl⟩ := Nat.exists_eq_add_of_le h
  have hfront : ((List.range xs.length).map fun i => xs[i]?.getD a) = xs :=
    List.ext_getElem (by simp) fun i hi hi' => by simp [hi']
  have hback : ((List.range more).map fun i => xs[xs.length + i]?.getD a) =
      List.replicate more a := by
    simp
  rw [List.range_add, List.map_append, List.map_map, hfront, Nat.add_sub_cancel_left, ← hback]
  rfl

/-- Every entry stands in its row and column and nothing else does, so that reading down gives the
entries back. No line is too long. -/
theorem readDown_layOut {entries : List String} (h : entries ≠ [])
    (ht : ∀ e ∈ entries, IsText e.toList) (width : Int) :
    let w := longest entries + 2
    let lines := layOut entries width
    let rows := lines.length
    0 < rows ∧
    (∀ k (hk : k < entries.length), ∃ line,
      lines[k % rows]? = some line ∧ cell w (k / rows) line = trimEnd entries[k]) ∧
    (∀ row line, lines[row]? = some line → ∀ column, entries.length ≤ row + column * rows →
      cell w column line = "") ∧
    ((∀ e ∈ entries, trimEnd e = e) → ∀ columns, entries.length ≤ columns * rows →
      readDown w columns lines =
        entries ++ List.replicate (columns * rows - entries.length) "") ∧
    ∀ line ∈ lines, (Text.length line : Int) ≤ max width (longest entries) := by
  intro w lines rows
  have hlines : lines =
      (List.range (grid entries width).rows).map ((grid entries width).line entries) :=
    layOut_eq h width
  have hrows : rows = (grid entries width).rows := by
    simp only [rows, hlines, List.length_map, List.length_range]
  have hpos : 0 < rows := hrows ▸ rows_pos h width
  have hcell : ∀ row column, cell w column ((grid entries width).line entries row) =
      trimEnd (entries[row + column * rows]?.getD "") := fun row column =>
    hrows ▸ cell_line ht width row column
  refine ⟨hpos, fun k hk => ?_, fun row line hl column hc => ?_, fun hb columns hc => ?_, ?_⟩
  · refine ⟨(grid entries width).line entries (k % rows), ?_, ?_⟩
    · have hlt : k % rows < (grid entries width).rows := hrows ▸ Nat.mod_lt k hpos
      simp [hlines, hlt]
    · rw [hcell, Nat.mod_add_div', List.getElem?_eq_getElem hk]
      rfl
  · rw [hlines, List.getElem?_map] at hl
    obtain ⟨row', hr, rfl⟩ := Option.map_eq_some_iff.mp hl
    obtain ⟨_, rfl⟩ := List.getElem?_eq_some_iff.mp hr
    rw [List.getElem_range, hcell, List.getElem?_eq_none hc]
    rfl
  · have hread : ∀ i : Nat, trimEnd (entries[i]?.getD "") = entries[i]?.getD "" := by
      intro i
      cases hi : entries[i]? with
      | none => rfl
      | some e => exact hb e (List.mem_of_getElem? hi)
    simp only [readDown, hlines, List.map_map, Function.comp_def, hcell, hread, ← hrows]
    rw [flatMap_range_map_range fun i => entries[i]?.getD "", map_getD_range entries "" hc]
  · intro line hl
    rw [hlines, List.mem_map] at hl
    obtain ⟨row, -, rfl⟩ := hl
    exact length_line_le ht width row

/-- Entries of which one is empty, in a width for two columns. -/
theorem readDown_layOut_two :
    let entries := ["ab", "c", "", "d e", "f"]
    (entries ≠ [] ∧ (∀ e ∈ entries, IsText e.toList) ∧ (∀ e ∈ entries, trimEnd e = e)) ∧
      layOut entries 11 = ["ab   d e", "c    f", ""] ∧
      readDown 5 2 (layOut entries 11) = entries ++ [""] := by
  intro entries
  have hn : entries ≠ [] := by decide
  have ht : ∀ e ∈ entries, IsText e.toList := by
    intro e he
    refine IsText.of_all ?_
    revert e
    decide
  have hb : ∀ e ∈ entries, trimEnd e = e := by decide
  have hl : layOut entries 11 = ["ab   d e", "c    f", ""] := by decide
  obtain ⟨-, -, -, hr, -⟩ := readDown_layOut hn ht 11
  refine ⟨⟨hn, ht, hb⟩, hl, ?_⟩
  have hr' := hr hb 2 (by rw [hl]; decide)
  rw [hl] at hr'
  rw [hl]
  exact hr'

end Layout

end Columns

end CommandShell
