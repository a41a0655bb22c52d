import CommandShell.Command.Fault
import CommandShell.Proofs.Substitution.Closed

/-! A recursive evaluator of substitutions, and the loop that splices outputs in and searches again.
One pass of the loop makes the first call of the evaluator and leaves the others as they were. -/

namespace CommandShell.Syntax.Substitution

variable {σ : Type}

theorem length_of_closing {depth : Nat} {text content after : List Char}
    (h : closing depth text = some (content, after)) :
    text.length = content.length + after.length + 1 := by
  rw [eq_of_closing h]
  simp [Nat.add_assoc]

/-- Walks a text from left to right. At a closed opener the content is walked first, then what it
became is evaluated, and the output is emitted; all else is copied. -/
def walk (evaluate : String → σ → String × σ) : List Char → σ → List Char × σ
  | [], s => ([], s)
  | '$' :: '(' :: rest, s =>
      match h : closing 0 rest with
      | some (content, after) =>
          have := length_of_closing h
          let (inside, s) := walk evaluate content s
          let (output, s) := evaluate (String.ofList inside) s
          let (later, s) := walk evaluate after s
          (output.toList ++ later, s)
      | none =>
          let (later, s) := walk evaluate rest s
          ('$' :: '(' :: later, s)
  | c :: rest, s =>
      let (later, s) := walk evaluate rest s
      (c :: later, s)
termination_by text => text.length

/-- An evaluator that also keeps the contents it is called on, in order. -/
def recorded (evaluate : String → σ → String × σ) (content : String) (s : σ × List String) :
    String × σ × List String :=
  let (output, after) := evaluate content s.1
  (output, after, s.2 ++ [content])

/-- The contents that the walk evaluates, in order. -/
def calls (evaluate : String → σ → String × σ) (text : List Char) (s : σ) : List String :=
  (walk (recorded evaluate) text (s, [])).2.2

/-- The state after the evaluation of some contents. -/
def stateAfter (evaluate : String → σ → String × σ) (contents : List String) (s : σ) : σ :=
  contents.foldl (fun s content => (evaluate content s).2) s

/-- An evaluator that raises nothing. -/
def certain {ε : Type} (evaluate : String → σ → String × σ) (content : String) (s : σ) :
    Except ε String × σ :=
  let (output, s) := evaluate content s
  (.ok output, s)

section Walk

variable (evaluate : String → σ → String × σ)

theorem walk_closed {rest content after : List Char} (h : closing 0 rest = some (content, after))
    (s : σ) :
    walk evaluate ('$' :: '(' :: rest) s =
      let (inside, s) := walk evaluate content s
      let (output, s) := evaluate (String.ofList inside) s
      let (later, s) := walk evaluate after s
      (output.toList ++ later, s) := by
  rw [walk.eq_2]
  split
  · rename_i heq
    rw [h, Option.some.injEq, Prod.mk.injEq] at heq
    rw [heq.1, heq.2]
  · rename_i heq
    rw [h] at heq
    contradiction

theorem walk_open {rest : List Char} (h : closing 0 rest = none) (s : σ) :
    walk evaluate ('$' :: '(' :: rest) s =
      ('$' :: '(' :: (walk evaluate rest s).1, (walk evaluate rest s).2) := by
  rw [walk.eq_2]
  split
  · rename_i heq
    rw [h] at heq
    contradiction
  · rfl

theorem walk_cons {c : Char} {rest : List Char}
    (ho : ∀ tail, c = '$' → rest = '(' :: tail → False) (s : σ) :
    walk evaluate (c :: rest) s = (c :: (walk evaluate rest s).1, (walk evaluate rest s).2) := by
  rw [walk.eq_3 _ _ _ _ ho]

/-- A text without closed openers is copied. -/
theorem walk_of_closedCount_eq_zero {text : List Char} (h : closedCount text = 0) (s : σ) :
    walk evaluate text s = (text, s) := by
  induction text using closedCount.induct with
  | case1 => simp [walk]
  | case2 rest ih =>
      rw [closedCount, Nat.add_eq_zero_iff] at h
      have hc : closing 0 rest = none := by simpa using h.1
      rw [walk_open evaluate hc, ih h.2]
  | case3 c rest ho ih =>
      rw [closedCount.eq_3 _ _ ho] at h
      rw [walk_cons evaluate ho, ih h]

theorem walk_inert_append {text after : List Char} (h : Inert text) (ha : Apart text after)
    (s : σ) :
    walk evaluate (text ++ after) s =
      (text ++ (walk evaluate after s).1, (walk evaluate after s).2) := by
  induction text with
  | nil => rfl
  | cons c rest ih =>
      rw [List.cons_append, walk_cons evaluate (opens_nothing_append h.not_opener ha),
        ih h.tail ha.tail]
      rfl

theorem Inert.closedCount_eq_zero {text : List Char} (h : Inert text) : closedCount text = 0 := by
  have ha : Apart text [] := by simp [Apart]
  simpa [closedCount] using h.closedCount_append ha

end Walk

/-! ## Splicing -/

/-- An output that can take the place of a substitution with inert content, behind a text in which
nothing is closed. -/
structure Splice (before content output : List Char) : Prop where
  before_open : closedCount before = 0
  before_end : before.getLast? ≠ some '$'
  content_inert : Inert content
  no_opener : '$' ∉ output
  no_closer : ')' ∉ output

namespace Splice

variable {before content output : List Char}

theorem apart (h : Splice before content output) (after : List Char) : Apart before after :=
  fun he => absurd he h.before_end

theorem output_inert (h : Splice before content output) : Inert output :=
  .of_not_mem h.no_opener h.no_closer

theorem opener {rest : List Char} (h : Splice ('$' :: '(' :: rest) content output) :
    closing 0 rest = none ∧ Splice rest content output := by
  have hb := h.before_open
  rw [closedCount, Nat.add_eq_zero_iff] at hb
  refine ⟨by simpa using hb.1, hb.2, ?_, h.content_inert, h.no_opener, h.no_closer⟩
  have he := h.before_end
  cases rest with
  | nil => simp
  | cons c rest => simpa using he

theorem cons {c : Char} {rest : List Char} (h : Splice (c :: rest) content output)
    (ho : ∀ tail, c = '$' → rest = '(' :: tail → False) : Splice rest content output := by
  refine ⟨?_, ?_, h.content_inert, h.no_opener, h.no_closer⟩
  · rw [← closedCount.eq_3 c rest ho]
    exact h.before_open
  · have he := h.before_end
    cases rest with
    | nil => simp
    | cons d rest => simpa using he

/-- Where the text before closes nothing, an opener in front of it is closed by the same parenthesis
whether a substitution or its output follows. -/
theorem closing_eq (h : Splice before content output) (hb : closing 0 before = none)
    (after : List Char) :
    ∃ depth,
      closing 0 (before ++ (bracket content ++ after)) =
        (closing depth after).map (fun r => (before ++ (bracket content ++ r.1), r.2)) ∧
      closing 0 (before ++ (output ++ after)) =
        (closing depth after).map (fun r => (before ++ (output ++ r.1), r.2)) := by
  rcases closing_append 0 before with ⟨content', tail, hc, -⟩ | ⟨-, depth, hr⟩
  · rw [hb] at hc
    contradiction
  · refine ⟨depth, ?_, ?_⟩
    · rw [hr _ (h.apart _), closing_bracket h.content_inert, Option.map_map]
      rfl
    · rw [hr _ (h.apart _),
        h.output_inert.closing_append (.of_not_mem h.no_opener), Option.map_map]
      rfl

theorem closedCount_eq (h : Splice before content output) (after : List Char) :
    closedCount (before ++ (bracket content ++ after)) =
      closedCount (before ++ (output ++ after)) + 1 := by
  induction before using closedCount.induct with
  | case1 =>
      have hs := h.content_inert.closedCount_append (apart_closer content after)
      have hp : closedCount (')' :: after) = closedCount after := by simp [closedCount]
      simp only [List.nil_append, bracket, List.cons_append, List.append_assoc, closedCount,
        closing_content h.content_inert, Option.isSome_some, ↓reduceIte, hs, hp,
        h.output_inert.closedCount_append (.of_not_mem h.no_opener)]
      omega
  | case2 rest ih =>
      obtain ⟨hb, hrest⟩ := h.opener
      obtain ⟨depth, hspan, hout⟩ := hrest.closing_eq hb after
      simp only [List.cons_append, closedCount, hspan, hout, Option.isSome_map, ih hrest]
      omega
  | case3 c rest ho ih =>
      rw [List.cons_append, List.cons_append,
        closedCount.eq_3 _ _ (opens_nothing_append ho (h.apart _)),
        closedCount.eq_3 _ _ (opens_nothing_append ho (h.apart _))]
      exact ih (h.cons ho)

/-- The walk of a text begins with the evaluation of its innermost substitution, and goes on as the
walk of the text in which the output stands. -/
theorem walk_eq {σ : Type} {evaluate : String → σ → String × σ} {s : σ}
    (h : Splice before content (evaluate (String.ofList content) s).1.toList)
    (after : List Char) :
    walk evaluate (before ++ (bracket content ++ after)) s =
      walk evaluate (before ++ ((evaluate (String.ofList content) s).1.toList ++ after))
        (evaluate (String.ofList content) s).2 := by
  induction before using closedCount.induct generalizing after with
  | case1 =>
      simp only [List.nil_append, bracket, List.cons_append, List.append_assoc]
      rw [walk_inert_append evaluate h.output_inert (.of_not_mem h.no_opener),
        walk_closed evaluate (closing_content h.content_inert after),
        walk_of_closedCount_eq_zero evaluate h.content_inert.closedCount_eq_zero]
  | case2 rest ih =>
      obtain ⟨hb, hrest⟩ := h.opener
      obtain ⟨depth, hspan, hout⟩ := hrest.closing_eq hb after
      rw [List.cons_append, List.cons_append, List.cons_append, List.cons_append]
      cases hd : closing depth after with
      | none =>
          rw [hd, Option.map_none] at hspan hout
          rw [walk_open evaluate hspan, walk_open evaluate hout, ih hrest]
      | some r =>
          rw [hd, Option.map_some] at hspan hout
          rw [walk_closed evaluate hspan, walk_closed evaluate hout, ih hrest]
  | case3 c rest ho ih =>
      rw [List.cons_append, List.cons_append,
        walk_cons evaluate (opens_nothing_append ho (h.apart _)),
        walk_cons evaluate (opens_nothing_append ho (h.apart _)), ih (h.cons ho)]

end Splice

end CommandShell.Syntax.Substitution
