import CommandShell.Json.Reader
import CommandShell.Proofs.Json.Writable
import CommandShell.Proofs.OrderedMap
import Mathlib.Data.List.TakeWhile

/-! What is read from a text can be written again: no number in it has too many digits. -/

namespace CommandShell.Json

theorem isWritable_arr {items : List Json} :
    (arr items).isWritable = true ↔ ∀ v ∈ items, v.isWritable = true := by
  rw [isWritable, unwritable?]
  induction items with
  | nil => simp [itemsUnwritable?]
  | cons v rest ih => simp [itemsUnwritable?, isWritable, ih]

theorem isWritable_obj {fields : List (String × Json)} :
    (obj fields).isWritable = true ↔ ∀ e ∈ fields, e.2.isWritable = true := by
  rw [isWritable, unwritable?]
  induction fields with
  | nil => simp [fieldsUnwritable?]
  | cons e rest ih => simp [fieldsUnwritable?, isWritable, ih]

theorem isWritable_float (x : Float) : (float x).isWritable = true :=
  rfl

/-! ## Words -/

namespace Lexeme

/-- Whether the value that a word holds, if any, can be written. -/
def Writable : Lexeme → Prop
  | scalar v => v.isWritable = true
  | _ => True

theorem isDigit_of_mem_readWhole {cs : List Char} {c : Char} (h : c ∈ (readWhole cs).1) :
    isDigit c = true := by
  revert h
  fun_cases readWhole cs with
  | case1 rest =>
      rw [List.mem_singleton]
      rintro rfl
      decide
  | case2 => exact List.mem_takeWhile_imp

theorem ofDigits_lt {digits : List Nat} (h : ∀ d ∈ digits, d < 10) :
    Decimal.ofDigits digits < 10 ^ digits.length := by
  have hfold : ∀ n, digits.foldl (fun n d => 10 * n + d) n < (n + 1) * 10 ^ digits.length := by
    induction digits with
    | nil => exact fun n => by simp
    | cons d rest ih =>
        obtain ⟨hd, hrest⟩ := List.forall_mem_cons.mp h
        intro n
        have hn : 10 * n + d + 1 ≤ (n + 1) * 10 := by omega
        calc (d :: rest).foldl (fun n d => 10 * n + d) n
            < (10 * n + d + 1) * 10 ^ rest.length := ih hrest _
          _ ≤ (n + 1) * 10 * 10 ^ rest.length := Nat.mul_le_mul_right _ hn
          _ = (n + 1) * 10 ^ (d :: rest).length := by
              rw [List.length_cons, Nat.pow_succ']
              exact Nat.mul_assoc _ _ _
  simpa [Decimal.ofDigits] using hfold 0

theorem digit_lt_ten {c : Char} (h : isDigit c = true) : c.toNat - 48 < 10 := by
  have hle : c.toNat ≤ '9'.toNat := of_decide_eq_true (Bool.and_eq_true_iff.mp h).2
  exact Nat.sub_lt_left_of_lt_add (of_decide_eq_true (Bool.and_eq_true_iff.mp h).1)
    (Nat.lt_succ_of_le hle)

theorem natAbs_signed (negative : Bool) (n : Nat) : (Decimal.signed negative n).natAbs = n := by
  rw [Decimal.signed]
  split <;> simp

theorem readNumber_writable {negative : Bool} {cs rest : List Char} {w : Lexeme}
    (h : readNumber negative cs = some (w, rest)) : w.Writable := by
  rw [readNumber] at h
  dsimp only at h
  split at h
  · contradiction
  · split at h
    · split at h
      · cases h
        trivial
      · rename_i hlen
        cases h
        rw [Writable, isWritable_int, natAbs_signed]
        refine Nat.lt_of_lt_of_le (ofDigits_lt ?_) (Nat.pow_le_pow_right (by decide) ?_)
        · intro d hd
          obtain ⟨c, hc, rfl⟩ := List.mem_map.mp hd
          exact digit_lt_ten (isDigit_of_mem_readWhole hc)
        · rw [digitValues, List.length_map]
          exact Nat.le_of_not_gt hlen
    · cases h
      exact isWritable_float _

theorem readScalar_writable {cs rest : List Char} {w : Lexeme}
    (h : readScalar cs = some (w, rest)) : w.Writable := by
  unfold readScalar at h
  split at h
  · rename_i word v hfind
    cases h
    have hm := List.mem_of_find?_eq_some hfind
    simp only [words, List.mem_cons, Prod.mk.injEq, List.not_mem_nil, or_false] at hm
    rcases hm with ⟨-, rfl⟩ | ⟨-, rfl⟩ | ⟨-, rfl⟩ | ⟨-, rfl⟩ | ⟨-, rfl⟩ | ⟨-, rfl⟩ <;> rfl
  · split at h <;> exact readNumber_writable h

theorem punctuation?_writable {c : Char} {w : Lexeme} (h : punctuation? c = some w) :
    w.Writable := by
  rw [punctuation?.eq_def] at h
  split at h <;> cases h <;> trivial

/-- On the text: every word is a mark, a string or a scalar that was read. -/
theorem split_writable (position : Nat) (cs : List Char) :
    ∀ w ∈ (split position cs).1, w.1.Writable := by
  fun_induction split position cs with
  | case1 => exact nofun
  | case2 position c tail hc ih => exact ih
  | case3 position c tail hc w hw ws stop hs ih =>
      rw [hs] at ih
      exact List.forall_mem_cons.mpr ⟨punctuation?_writable hw, ih⟩
  | case4 => exact List.forall_mem_singleton.mpr trivial
  | case5 position tail pieces rest stop hr hl ws last hs hc hp ih =>
      rw [hs] at ih
      exact List.forall_mem_cons.mpr ⟨trivial, ih⟩
  | case6 => exact List.forall_mem_singleton.mpr trivial
  | case7 position c tail hc hp hq w rest hr hl ws stop hs ih =>
      rw [hs] at ih
      exact List.forall_mem_cons.mpr ⟨readScalar_writable hr, ih⟩

end Lexeme

/-! ## States -/

namespace Reader

/-- Whether the values of a list or an object that is still open can be written. -/
def Frame.Writable : Frame → Prop
  | list done => ∀ v ∈ done, v.isWritable = true
  | object done _ => ∀ e ∈ done, e.2.isWritable = true

def Expectation.Writable : Expectation → Prop
  | name done | colon done _ | afterField done => ∀ e ∈ done, e.2.isWritable = true
  | afterItem done => ∀ v ∈ done, v.isWritable = true
  | finished v => v.isWritable = true
  | _ => True

/-- Whether every value that was read so far can be written. -/
structure State.Writable (s : State) : Prop where
  expects : s.expects.Writable
  open_ : ∀ f ∈ s.open_, f.Writable

variable {bound : Bound} {frames : List Frame} {s s' : State} {position : Nat} {w : Lexeme}
  {done : List (String × Json)} {v : Json}

theorem place_writable (hv : v.isWritable = true) (hf : ∀ f ∈ frames, f.Writable) :
    (place v frames).Writable := by
  cases frames with
  | nil => exact ⟨hv, List.forall_mem_nil _⟩
  | cons f rest =>
      obtain ⟨hfirst, hrest⟩ := List.forall_mem_cons.mp hf
      cases f with
      | list done =>
          exact ⟨List.forall_mem_append.mpr ⟨hfirst, List.forall_mem_singleton.mpr hv⟩, hrest⟩
      | object done name =>
          refine ⟨fun e he => ?_, hrest⟩
          rcases OrderedMap.mem_insertEntry he with rfl | he
          · exact hv
          · exact hfirst e he

theorem enter_writable {o : Overflow} {x : Expectation} (hx : x.Writable)
    (hf : ∀ f ∈ frames, f.Writable) (h : enter bound frames o x = .ok s') : s'.Writable := by
  rw [enter] at h
  split at h
  · cases h
    exact ⟨hx, hf⟩
  · contradiction

theorem startValue_writable (hw : w.Writable) (hf : ∀ f ∈ frames, f.Writable)
    (h : startValue bound frames position w = .ok s') : s'.Writable := by
  cases w with
  | scalar v =>
      cases h
      exact place_writable hw hf
  | string s =>
      cases h
      exact place_writable (isWritable_str s) hf
  | openBracket => exact enter_writable (x := .firstItem) trivial hf h
  | openBrace => exact enter_writable (x := .firstName) trivial hf h
  | _ => contradiction

theorem startName_writable (hd : ∀ e ∈ done, e.2.isWritable = true)
    (hf : ∀ f ∈ frames, f.Writable) (h : startName frames done position w = .ok s') :
    s'.Writable := by
  cases w with
  | string s =>
      cases h
      exact ⟨hd, hf⟩
  | _ => contradiction

theorem step_writable (hw : w.Writable) (hs : s.Writable)
    (h : step bound s position w = .ok s') : s'.Writable := by
  obtain ⟨hx, hf⟩ := hs
  rw [step.eq_def] at h
  split at h
  case h_1 => exact startValue_writable hw hf h
  case h_2 =>
    cases h
    exact place_writable (isWritable_arr.mpr (List.forall_mem_nil _)) hf
  case h_3 =>
    have hl : Frame.Writable (.list []) := List.forall_mem_nil _
    exact startValue_writable hw (List.forall_mem_cons.mpr ⟨hl, hf⟩) h
  case h_4 =>
    cases h
    exact place_writable (isWritable_obj.mpr (List.forall_mem_nil _)) hf
  case h_5 => exact startName_writable (List.forall_mem_nil _) hf h
  case h_6 done _ he =>
    rw [he] at hx
    exact startName_writable hx hf h
  case h_7 done name he =>
    rw [he] at hx
    cases h
    exact ⟨trivial, List.forall_mem_cons.mpr ⟨hx, hf⟩⟩
  case h_9 done he =>
    rw [he] at hx
    cases h
    exact ⟨trivial, List.forall_mem_cons.mpr ⟨hx, hf⟩⟩
  case h_10 done he =>
    rw [he] at hx
    cases h
    exact place_writable (isWritable_arr.mpr hx) hf
  case h_12 done he =>
    rw [he] at hx
    cases h
    exact ⟨hx, hf⟩
  case h_13 done he =>
    rw [he] at hx
    cases h
    exact place_writable (isWritable_obj.mpr hx) hf
  all_goals contradiction

theorem run_writable {ws : List (Lexeme × Nat)} {stop : Nat} (hw : ∀ w ∈ ws, w.1.Writable)
    (hs : s.Writable) (h : run bound stop s ws = .ok v) : v.isWritable = true := by
  induction ws generalizing s with
  | nil =>
      rw [run, finish] at h
      have hx := hs.expects
      split at h
      · rename_i he
        cases h
        rw [he] at hx
        exact hx
      all_goals contradiction
  | cons w rest ih =>
      obtain ⟨hfirst, hrest⟩ := List.forall_mem_cons.mp hw
      rw [run] at h
      split at h
      · contradiction
      · exact ih hrest (step_writable hfirst hs ‹_›) h

end Reader

/-- What is read can be written. -/
theorem read_writable {bound : Bound} {text : String} {v : Json} (h : read bound text = .ok v) :
    v.isWritable = true := by
  rw [read] at h
  split at h
  · contradiction
  · rw [readText] at h
    dsimp only at h
    split at h
    · rename_i hr
      cases h
      have hs : Reader.State.Writable ⟨.value, []⟩ := ⟨trivial, List.forall_mem_nil _⟩
      exact Reader.run_writable (Lexeme.split_writable 0 _) hs hr
    all_goals contradiction

end CommandShell.Json
