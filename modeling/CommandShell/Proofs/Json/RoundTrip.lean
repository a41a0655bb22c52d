import CommandShell.Json.Reader
import CommandShell.Proofs.Json.Portable
import CommandShell.Proofs.OrderedMap

/-!
Values written as text and read again. Reading is followed on the characters themselves: a state of
the reader and the characters that are still ahead of it become another state and fewer characters.
-/

namespace CommandShell.Json

open Lexeme

namespace Reader

variable {bound : Bound} {s s' s'' : State} {frames : List Frame} {cs cs' cs'' : List Char}

/-- What is read from some state on. -/
def resume (bound : Bound) (s : State) (position : Nat) (cs : List Char) : Except Stop Json :=
  run bound (split position cs).2 s (split position cs).1

/-- The reader gets from one state to another by the characters that are no longer ahead. -/
def Passes (bound : Bound) (s : State) (cs : List Char) (s' : State) (cs' : List Char) : Prop :=
  ∀ position, ∃ next, resume bound s position cs = resume bound s' next cs'

theorem Passes.refl (s : State) (cs : List Char) : Passes bound s cs s cs :=
  fun position => ⟨position, rfl⟩

theorem Passes.trans (h : Passes bound s cs s' cs') (h' : Passes bound s' cs' s'' cs'') :
    Passes bound s cs s'' cs'' := by
  intro position
  obtain ⟨next, hn⟩ := h position
  obtain ⟨last, hl⟩ := h' next
  exact ⟨last, hn.trans hl⟩

theorem passes_spaces {before : List Char} (h : ∀ c ∈ before, isSpace c = true) :
    Passes bound s (before ++ cs) s cs := by
  intro position
  induction before generalizing position with
  | nil => exact ⟨position, rfl⟩
  | cons c rest ih =>
      obtain ⟨next, hn⟩ := ih (fun d hd => h d (List.mem_cons_of_mem _ hd)) (position + 1)
      refine ⟨next, ?_⟩
      rw [← hn, resume, resume, List.cons_append, split_space (h c List.mem_cons_self)]

theorem passes_word {w : Lexeme} (h : Begins cs w cs')
    (hs : ∀ position, step bound s position w = .ok s') : Passes bound s cs s' cs' := by
  intro position
  obtain ⟨next, hn⟩ := h position
  refine ⟨next, ?_⟩
  rw [resume, hn, run, hs]
  rfl

/-- A state in which a value may come next, to be put into some frames. -/
def Awaits (s : State) (frames : List Frame) : Prop :=
  ∀ bound position w, w ≠ .closeBracket →
    step bound s position w = startValue bound frames position w

theorem awaits_value (frames : List Frame) : Awaits ⟨.value, frames⟩ frames :=
  fun _ _ _ _ => rfl

theorem awaits_firstItem (frames : List Frame) :
    Awaits ⟨.firstItem, frames⟩ (.list [] :: frames) := by
  intro bound position w hw
  cases w <;> first | rfl | contradiction

/-- Whether some levels are within the bound. -/
def Fits (bound : Bound) (levels : Nat) : Prop :=
  ∀ b ∈ bound, levels ≤ b

theorem Fits.le {n m : Nat} (h : Fits bound n) (hm : m ≤ n) : Fits bound m :=
  fun b hb => Nat.le_trans hm (h b hb)

theorem enter_of_fits (h : Fits bound (frames.length + 1)) (o : Overflow) (expects : Expectation) :
    enter bound frames o expects = .ok ⟨expects, frames⟩ := by
  rw [enter, if_pos]
  cases bound with
  | none => rfl
  | some b => simpa [Nat.succ_le_iff] using h b rfl

/-! ## What the writer puts between values -/

theorem isSpace_lead {layout : Layout} {depth : Nat} :
    ∀ c ∈ Writer.lead layout depth, isSpace c = true := by
  intro c hc
  cases layout with
  | compact => contradiction
  | line => contradiction
  | indented =>
      rw [Writer.lead, List.mem_cons, List.mem_replicate] at hc
      obtain rfl | ⟨-, rfl⟩ := hc <;> rfl

theorem separator_eq (layout : Layout) (depth : Nat) :
    ∃ blanks, Writer.separator layout depth = ',' :: blanks ∧ ∀ c ∈ blanks, isSpace c = true := by
  cases layout with
  | compact => exact ⟨[], rfl, by simp⟩
  | line => exact ⟨[' '], rfl, by simp [isSpace]⟩
  | indented => exact ⟨_, rfl, isSpace_lead⟩

theorem colon_eq (layout : Layout) :
    ∃ blanks, Writer.colon layout = ':' :: blanks ∧ ∀ c ∈ blanks, isSpace c = true := by
  cases layout with
  | compact => exact ⟨[], rfl, by simp⟩
  | line => exact ⟨[' '], rfl, by simp [isSpace]⟩
  | indented => exact ⟨[' '], rfl, by simp [isSpace]⟩

theorem endsNumber_cons {c : Char} (h : c ∈ [',', '\n', ']', '\x7d']) : EndsNumber (c :: cs) := by
  rintro d hd
  cases hd
  simp only [List.mem_cons, List.not_mem_nil, or_false] at h
  rcases h with rfl | rfl | rfl | rfl <;> decide

theorem endsNumber_lead {c : Char} (h : c ∈ [']', '\x7d']) (layout : Layout) (depth : Nat) :
    EndsNumber (Writer.lead layout depth ++ c :: cs) := by
  have hc : EndsNumber (c :: cs) :=
    endsNumber_cons (List.mem_cons_of_mem _ (List.mem_cons_of_mem _ h))
  cases layout with
  | compact => exact hc
  | line => exact hc
  | indented => exact endsNumber_cons (by simp)

theorem endsNumber_items (h : EndsNumber cs) (layout : Layout) (depth : Nat) (vs : List Json) :
    EndsNumber (Writer.items layout depth vs ++ cs) := by
  cases vs with
  | nil => exact h
  | cons v rest =>
      obtain ⟨blanks, hb, -⟩ := separator_eq layout depth
      rw [Writer.items, hb]
      exact endsNumber_cons (by simp)

theorem endsNumber_fields (h : EndsNumber cs) (layout : Layout) (depth : Nat)
    (fields : List (String × Json)) : EndsNumber (Writer.fields layout depth fields ++ cs) := by
  cases fields with
  | nil => exact h
  | cons e rest =>
      obtain ⟨blanks, hb, -⟩ := separator_eq layout depth
      rw [Writer.fields, hb]
      exact endsNumber_cons (by simp)

/-! ## Reading what was written -/

theorem passes_mark {c : Char} {w : Lexeme} (hc : punctuation? c = some w)
    (hs : ∀ position, step bound s position w = .ok s') : Passes bound s (c :: cs) s' cs :=
  passes_word (begins_mark hc cs) hs

theorem passes_scalar {v : Json} (h : Begins cs (.scalar v) cs') (hs : Awaits s frames) :
    Passes bound s cs (place v frames) cs' :=
  passes_word h fun position => hs bound position _ (by simp)

theorem passes_bracket {inner : Nat} (hs : Awaits s frames)
    (hf : Fits bound (frames.length + (inner + 1))) :
    Passes bound s ('[' :: cs) ⟨.firstItem, frames⟩ cs :=
  passes_mark rfl fun position =>
    (hs bound position _ (by simp)).trans (enter_of_fits (hf.le (by omega)) _ _)

theorem passes_brace {inner : Nat} (hs : Awaits s frames)
    (hf : Fits bound (frames.length + (inner + 1))) :
    Passes bound s ('\x7b' :: cs) ⟨.firstName, frames⟩ cs :=
  passes_mark rfl fun position =>
    (hs bound position _ (by simp)).trans (enter_of_fits (hf.le (by omega)) _ _)

/-- The name of a field, and the way to its value. -/
theorem passes_name {name : String} {done : List (String × Json)}
    (hs : ∀ position, step bound s position (.string name) = .ok ⟨.colon done name, frames⟩)
    (layout : Layout) :
    Passes bound s (Writer.string name ++ (Writer.colon layout ++ cs))
      ⟨.value, .object done name :: frames⟩ cs := by
  obtain ⟨blanks, hb, hspace⟩ := colon_eq layout
  have hname := passes_word (begins_string name (Writer.colon layout ++ cs)) hs
  rw [hb] at hname ⊢
  exact hname.trans ((passes_mark rfl fun _ => rfl).trans (passes_spaces hspace))

mutual

/-- A value that was written is read and put where it belongs. -/
theorem passes_value (v : Json) {s : State} {frames : List Frame} {cs : List Char}
    (hv : Portable v) (hs : Awaits s frames) (hf : Fits bound (frames.length + v.depth))
    (hcs : EndsNumber cs) (layout : Layout) (depth : Nat) :
    Passes bound s (Writer.value layout depth v ++ cs) (place v frames) cs := by
  match v with
  | .null => exact passes_scalar (begins_null cs) hs
  | .bool true => exact passes_scalar (begins_true cs) hs
  | .bool false => exact passes_scalar (begins_false cs) hs
  | .int n => exact passes_scalar (begins_int hcs hv) hs
  | .float x => exact absurd hv (by simp [Portable])
  | .str text =>
      exact passes_word (begins_string text cs) fun position => hs bound position _ (by simp)
  | .arr [] =>
      have hclose : Passes bound ⟨.firstItem, frames⟩ (']' :: cs) (place (.arr []) frames) cs :=
        passes_mark rfl fun _ => rfl
      exact (passes_bracket hs hf).trans hclose
  | .arr (v :: rest) =>
      have hends : EndsNumber (Writer.lead layout depth ++ ']' :: cs) :=
        endsNumber_lead (by simp) layout depth
      have hfirst := passes_value v hv.1 (awaits_firstItem frames)
        (hf.le (by simp only [Json.depth, depthOfItems, List.length_cons]; omega))
        (endsNumber_items hends layout (depth + 1) rest) layout (depth + 1)
      have hrest := passes_items rest frames hv.2 [v]
        (hf.le (by simp only [Json.depth, depthOfItems]; omega)) hends layout (depth + 1)
      have hclose : Passes bound ⟨.afterItem ([v] ++ rest), frames⟩ (']' :: cs)
          (place (.arr (v :: rest)) frames) cs := passes_mark rfl fun _ => rfl
      simp only [Writer.value, List.append_assoc, List.cons_append, List.nil_append]
      refine (passes_bracket hs hf).trans ?_
      refine (passes_spaces isSpace_lead).trans ?_
      refine hfirst.trans (hrest.trans ?_)
      exact (passes_spaces isSpace_lead).trans hclose
  | .obj [] =>
      have hclose : Passes bound ⟨.firstName, frames⟩ ('\x7d' :: cs) (place (.obj []) frames) cs :=
        passes_mark rfl fun _ => rfl
      exact (passes_brace hs hf).trans hclose
  | .obj ((k, v) :: rest) =>
      have hends : EndsNumber (Writer.lead layout depth ++ '\x7d' :: cs) :=
        endsNumber_lead (by simp) layout depth
      have hfirst := passes_value v hv.2.2.1 (awaits_value (.object [] k :: frames))
        (hf.le (by simp only [Json.depth, depthOfFields, List.length_cons]; omega))
        (endsNumber_fields hends layout (depth + 1) rest) layout (depth + 1)
      have hrest := passes_fields rest frames hv.2.2.2 [(k, v)] hv.1
        (hf.le (by simp only [Json.depth, depthOfFields]; omega)) hends layout (depth + 1)
      have hclose : Passes bound ⟨.afterField ([(k, v)] ++ rest), frames⟩ ('\x7d' :: cs)
          (place (.obj ((k, v) :: rest)) frames) cs := passes_mark rfl fun _ => rfl
      simp only [Writer.value, List.append_assoc, List.cons_append, List.nil_append]
      refine (passes_brace hs hf).trans ?_
      refine (passes_spaces isSpace_lead).trans ?_
      refine (passes_name (fun _ => rfl) layout).trans ?_
      refine hfirst.trans (hrest.trans ?_)
      exact (passes_spaces isSpace_lead).trans hclose

theorem passes_items (vs : List Json) (frames : List Frame) {cs : List Char}
    (h : PortableItems vs) (done : List Json)
    (hf : Fits bound (frames.length + 1 + depthOfItems vs)) (hcs : EndsNumber cs)
    (layout : Layout) (depth : Nat) :
    Passes bound ⟨.afterItem done, frames⟩ (Writer.items layout depth vs ++ cs)
      ⟨.afterItem (done ++ vs), frames⟩ cs := by
  match vs with
  | [] =>
      rw [List.append_nil]
      exact .refl _ _
  | v :: rest =>
      obtain ⟨blanks, hb, hspace⟩ := separator_eq layout depth
      have hfirst := passes_value v h.1 (awaits_value (.list done :: frames))
        (hf.le (by simp only [depthOfItems, List.length_cons]; omega))
        (endsNumber_items hcs layout depth rest) layout depth
      have hrest := passes_items rest frames h.2 (done ++ [v])
        (hf.le (by simp only [depthOfItems]; omega)) hcs layout depth
      rw [List.append_assoc, List.singleton_append] at hrest
      simp only [Writer.items, hb, List.append_assoc, List.cons_append]
      refine (passes_mark rfl fun _ => rfl).trans ?_
      refine (passes_spaces hspace).trans ?_
      exact hfirst.trans hrest

theorem passes_fields (fields : List (String × Json)) (frames : List Frame) {cs : List Char}
    (h : PortableFields fields) (done : List (String × Json))
    (hn : ((done ++ fields).map Prod.fst).Nodup)
    (hf : Fits bound (frames.length + 1 + depthOfFields fields)) (hcs : EndsNumber cs)
    (layout : Layout) (depth : Nat) :
    Passes bound ⟨.afterField done, frames⟩ (Writer.fields layout depth fields ++ cs)
      ⟨.afterField (done ++ fields), frames⟩ cs := by
  match fields with
  | [] =>
      rw [List.append_nil]
      exact .refl _ _
  | (k, v) :: rest =>
      obtain ⟨blanks, hb, hspace⟩ := separator_eq layout depth
      have hfirst := passes_value v h.2.1 (awaits_value (.object done k :: frames))
        (hf.le (by simp only [depthOfFields, List.length_cons]; omega))
        (endsNumber_fields hcs layout depth rest) layout depth
      have hnew : setField done k v = done ++ [(k, v)] := by
        rw [List.map_append, List.nodup_append] at hn
        exact OrderedMap.insertEntry_of_not_mem fun hk => hn.2.2 k hk k (by simp) rfl
      have hrest := passes_fields rest frames h.2.2 (done ++ [(k, v)])
        (by rwa [List.append_assoc]) (hf.le (by simp only [depthOfFields]; omega)) hcs layout depth
      rw [List.append_assoc, List.singleton_append] at hrest
      rw [place, hnew] at hfirst
      simp only [Writer.fields, hb, List.append_assoc, List.cons_append]
      refine (passes_mark rfl fun _ => rfl).trans ?_
      refine (passes_spaces hspace).trans ?_
      refine (passes_name (fun _ => rfl) layout).trans ?_
      exact hfirst.trans hrest

end

end Reader

/-- What was written in any layout is read again where its depth is within the bound. -/
theorem readText_value {bound : Bound} {v : Json} (hv : Portable v)
    (hf : Reader.Fits bound v.depth) (layout : Layout) (depth : Nat) :
    readText bound (Writer.value layout depth v) = .ok v := by
  have hends : EndsNumber [] := by simp [EndsNumber]
  obtain ⟨next, hn⟩ := Reader.passes_value v hv (Reader.awaits_value [])
    (by simpa using hf) hends layout depth 0
  have hend : Reader.resume bound (Reader.place v []) next [] = .ok v := by
    rw [Reader.resume, split]
    rfl
  rw [List.append_nil, hend, Reader.resume] at hn
  simp only [readText, hn]

end CommandShell.Json
