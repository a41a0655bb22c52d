import CommandShell.Proofs.Json.Literal
import CommandShell.Proofs.Text.Encoding

/-!
Values that are kept in a file without loss. What they are written as is a text, and it has no
return in it that a file would give back as a newline.
-/

namespace CommandShell.Json

open Text (Unaltered)

mutual

/-- A value without floating-point numbers, with no number that is too long to be read, and with
different names in each object. -/
def Portable : Json → Prop
  | null | bool _ => True
  | int n => (Nat.toDigits 10 n.natAbs).length ≤ maxDigits
  | float _ => False
  | str s => Text.IsText s.toList
  | arr items => PortableItems items
  | obj fields => (fields.map Prod.fst).Nodup ∧ PortableFields fields

def PortableItems : List Json → Prop
  | [] => True
  | v :: rest => Portable v ∧ PortableItems rest

def PortableFields : List (String × Json) → Prop
  | [] => True
  | (k, v) :: rest => Text.IsText k.toList ∧ Portable v ∧ PortableFields rest

end

theorem portableFields_iff {fields : List (String × Json)} :
    PortableFields fields ↔ ∀ e ∈ fields, Text.IsText e.1.toList ∧ Portable e.2 := by
  induction fields with
  | nil => simp [PortableFields]
  | cons e rest ih => rw [PortableFields, ih, List.forall_mem_cons, and_assoc]

namespace Writer

variable {c d : Char}

theorem escape_of_setAside (h : Text.Code.setAside ≤ c.toNat) : escape c = [c] := by
  have hne : ∀ d, d.toNat < Text.Code.setAside → c ≠ d := by
    rintro d hd rfl
    omega
  have hcontrol : ¬c.toNat < 0x20 := by
    simp only [Text.Code.setAside] at h
    omega
  simp [escape, hne '"' (by decide), hne '\\' (by decide), hne '\n' (by decide),
    hne '\r' (by decide), hne '\t' (by decide), hne '\x0c' (by decide), hne '\x08' (by decide),
    hcontrol]

/-- Escaping adds plain characters only, and leaves no return. -/
theorem mem_escape (h : d ∈ escape c) : (d = c ∨ d.toNat < 0x80) ∧ d ≠ '\r' := by
  obtain ⟨e, hmem, hc, -⟩ | ⟨hc, hlow⟩ | ⟨hc, -, -, hspace⟩ := Lexeme.escape_cases c
  · have hall : ∀ d ∈ ['\\', '"', '\\', 'n', 'r', 't', 'f', 'b'], d.toNat < 0x80 ∧ d ≠ '\r' := by
      simp
    have hd : d = '\\' ∨ d = e := by simpa [hc] using h
    have hplain := hall d (hd.elim (fun he => he ▸ List.mem_cons_self)
      fun he => he ▸ List.mem_cons_of_mem _ hmem)
    exact ⟨.inr hplain.1, hplain.2⟩
  · have hall : ∀ n < 0x20, ('\\' :: 'u' :: Text.hex 4 n).all
        (fun d => d.toNat < 0x80 ∧ d ≠ '\r') = true := by decide
    have hplain := of_decide_eq_true (List.all_eq_true.1 (hall c.toNat hlow) d (hc ▸ h))
    exact ⟨.inr hplain.1, hplain.2⟩
  · obtain rfl : d = c := by simpa [hc] using h
    refine ⟨.inl rfl, ?_⟩
    rintro rfl
    contradiction

theorem unaltered_string {s : String} (h : Text.IsText s.toList) : Unaltered (string s) := by
  have hescaped : Unaltered (s.toList.flatMap escape) := by
    refine ⟨h.flatMap (fun c => escape_of_setAside) fun c hc => .of_forall fun d hd => ?_, ?_⟩
    · obtain rfl | hlow := (mem_escape hd).1
      · exact hc
      · simp only [Text.Code.setAside]
        omega
    · intro hr
      obtain ⟨c, -, hc⟩ := List.mem_flatMap.1 hr
      exact (mem_escape hc).2 rfl
  have hquote : Unaltered ['"'] := .of_ascii (by simp)
  exact (hquote.append hescaped).append hquote

theorem unaltered_int (n : Int) : Unaltered (toString n).toList := by
  have hdigits : ∀ n : Nat, Unaltered (Nat.toDigits 10 n) := fun n => .of_ascii fun c hc => by
    have hd := Lexeme.isDigit_of_mem_toDigits hc
    refine ⟨?_, Lexeme.ne_of_isDigit hd rfl⟩
    rw [Lexeme.isDigit, Bool.and_eq_true, decide_eq_true_eq, decide_eq_true_eq] at hd
    have hle : c.toNat ≤ '9'.toNat := hd.2
    exact Nat.lt_of_le_of_lt hle (by decide)
  rw [Int.toString_eq_repr]
  cases n with
  | ofNat n =>
      rw [Int.repr, Nat.toList_repr]
      exact hdigits n
  | negSucc n =>
      rw [Int.repr, String.toList_append, Nat.toList_repr]
      exact Unaltered.append (.of_ascii (by simp)) (hdigits _)

theorem unaltered_lead (layout : Layout) (depth : Nat) : Unaltered (lead layout depth) := by
  refine .of_ascii fun c hc => ?_
  cases layout with
  | compact => contradiction
  | line => contradiction
  | indented =>
      rw [lead, List.mem_cons, List.mem_replicate] at hc
      obtain rfl | ⟨-, rfl⟩ := hc <;> decide

theorem unaltered_separator (layout : Layout) (depth : Nat) :
    Unaltered (separator layout depth) := by
  have hcomma : Unaltered [','] := .of_ascii (by simp)
  cases layout with
  | compact => exact hcomma
  | line => exact (.of_ascii (by simp) : Unaltered [',', ' '])
  | indented => exact hcomma.append (unaltered_lead .indented depth)

theorem unaltered_colon (layout : Layout) : Unaltered (colon layout) := by
  cases layout <;> exact .of_ascii (by simp [colon])

mutual

/-- What a value is written as comes back from a file as it was. -/
theorem unaltered_value (v : Json) (h : Portable v) (layout : Layout) (depth : Nat) :
    Unaltered (value layout depth v) := by
  match v with
  | .null => exact (.of_ascii (by simp) : Unaltered "null".toList)
  | .bool true => exact (.of_ascii (by simp) : Unaltered "true".toList)
  | .bool false => exact (.of_ascii (by simp) : Unaltered "false".toList)
  | .int n => exact unaltered_int n
  | .float x => exact absurd h (by simp [Portable])
  | .str s => exact unaltered_string h
  | .arr [] => exact (.of_ascii (by simp) : Unaltered ['[', ']'])
  | .arr (v :: rest) =>
      have hopen : Unaltered ['['] := .of_ascii (by simp)
      have hclose : Unaltered [']'] := .of_ascii (by simp)
      have hvalue := unaltered_value v h.1 layout (depth + 1)
      have hitems := unaltered_items rest h.2 layout (depth + 1)
      have hfirst := (hopen.append (unaltered_lead layout (depth + 1))).append hvalue
      exact ((hfirst.append hitems).append (unaltered_lead layout depth)).append hclose
  | .obj [] => exact (.of_ascii (by simp) : Unaltered ['\x7b', '\x7d'])
  | .obj ((k, v) :: rest) =>
      have hopen : Unaltered ['\x7b'] := .of_ascii (by simp)
      have hclose : Unaltered ['\x7d'] := .of_ascii (by simp)
      have hname :=
        (hopen.append (unaltered_lead layout (depth + 1))).append (unaltered_string h.2.1)
      have hvalue := unaltered_value v h.2.2.1 layout (depth + 1)
      have hfields := unaltered_fields rest h.2.2.2 layout (depth + 1)
      have hfirst := (hname.append (unaltered_colon layout)).append hvalue
      exact ((hfirst.append hfields).append (unaltered_lead layout depth)).append hclose

theorem unaltered_items (vs : List Json) (h : PortableItems vs) (layout : Layout) (depth : Nat) :
    Unaltered (items layout depth vs) := by
  match vs with
  | [] => exact .of_ascii (by simp [items])
  | v :: rest =>
      have hvalue := unaltered_value v h.1 layout depth
      have hitems := unaltered_items rest h.2 layout depth
      exact ((unaltered_separator layout depth).append hvalue).append hitems

theorem unaltered_fields (fs : List (String × Json)) (h : PortableFields fs) (layout : Layout)
    (depth : Nat) : Unaltered (fields layout depth fs) := by
  match fs with
  | [] => exact .of_ascii (by simp [fields])
  | (k, v) :: rest =>
      have hname := (unaltered_separator layout depth).append (unaltered_string h.1)
      have hvalue := unaltered_value v h.2.1 layout depth
      have hfields := unaltered_fields rest h.2.2 layout depth
      exact ((hname.append (unaltered_colon layout)).append hvalue).append hfields

end

end Writer

end CommandShell.Json
