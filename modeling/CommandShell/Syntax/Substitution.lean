import CommandShell.Text.Code

/-!
Command substitution: the innermost complete one is evaluated, its output takes its place, and the
search starts again from the head of the text, until none is left or the passes are used up.
-/

namespace CommandShell.Syntax

namespace Substitution

/-- What stands before the parenthesis that closes the current level, and what stands after it.
`depth` levels lie in between; only a dollar sign with a parenthesis opens one. -/
def closing : Nat → List Char → Option (List Char × List Char)
  | _, [] => none
  | depth, '$' :: '(' :: rest =>
      (closing (depth + 1) rest).map fun r => ('$' :: '(' :: r.1, r.2)
  | 0, c :: rest =>
      if c = ')' then some ([], rest) else (closing 0 rest).map fun r => (c :: r.1, r.2)
  | depth + 1, c :: rest =>
      (closing (if c = ')' then depth else depth + 1) rest).map fun r => (c :: r.1, r.2)

def holdsOpener : List Char → Bool
  | [] => false
  | '$' :: '(' :: _ => true
  | _ :: rest => holdsOpener rest

/-- A text cut at a substitution: the text before it, its content, and the text after it. -/
structure Span where
  before : List Char
  content : List Char
  after : List Char
  deriving DecidableEq, Repr

def Span.shift (c : Char) (s : Span) : Span :=
  { s with before := c :: s.before }

/-- The first substitution that is closed and holds no other. -/
def innermost? : List Char → Option Span
  | [] => none
  | '$' :: '(' :: rest =>
      match closing 0 rest with
      | some (content, after) =>
          if holdsOpener content then (innermost? ('(' :: rest)).map (Span.shift '$')
          else some ⟨[], content, after⟩
      | none => (innermost? ('(' :: rest)).map (Span.shift '$')
  | c :: rest => (innermost? rest).map (Span.shift c)

/-- The places of the dollar sign and of the closing parenthesis. -/
def Span.bounds (s : Span) : Nat × Nat :=
  (Text.size s.before, Text.size s.before + 2 + Text.size s.content)

/-- Evaluates substitutions for at most `passes` passes, handing a state on from each to the next.
Where one more pass is needed, `exceeded` is raised. -/
def expand {σ ε : Type} (exceeded : ε) (evaluate : List Char → σ → Except ε (List Char) × σ) :
    Nat → List Char → σ → Except ε (List Char) × σ
  | passes, text, s =>
      match innermost? text with
      | none => (.ok text, s)
      | some span =>
          match passes with
          | 0 => (.error exceeded, s)
          | passes + 1 =>
              match evaluate span.content s with
              | (.error e, s) => (.error e, s)
              | (.ok output, s) =>
                  expand exceeded evaluate passes (span.before ++ output ++ span.after) s

section Expand

variable {σ ε : Type} {exceeded : ε} {evaluate : List Char → σ → Except ε (List Char) × σ}
  {text : List Char} {span : Span}

theorem expand_of_none (h : innermost? text = none) (passes : Nat) (s : σ) :
    expand exceeded evaluate passes text s = (.ok text, s) := by
  rw [expand.eq_def]
  simp only [h]

theorem expand_zero (h : innermost? text = some span) (s : σ) :
    expand exceeded evaluate 0 text s = (.error exceeded, s) := by
  rw [expand.eq_def]
  simp only [h]

theorem expand_succ (h : innermost? text = some span) (passes : Nat) (s : σ) :
    expand exceeded evaluate (passes + 1) text s =
      match evaluate span.content s with
      | (.error e, s) => (.error e, s)
      | (.ok output, s) =>
          expand exceeded evaluate passes (span.before ++ output ++ span.after) s := by
  rw [expand.eq_def]
  simp only [h]

end Expand

/-- An evaluator of texts as one of characters. -/
def onChars {σ ε : Type} (evaluate : String → σ → Except ε String × σ) (content : List Char)
    (s : σ) : Except ε (List Char) × σ :=
  let (output, s) := evaluate (String.ofList content) s
  (output.map String.toList, s)

section OnChars

variable {σ ε : Type} {evaluate : String → σ → Except ε String × σ} {content : List Char} {s s' : σ}

theorem onChars_eq_error {e : ε} (h : onChars evaluate content s = (.error e, s')) :
    evaluate (String.ofList content) s = (.error e, s') := by
  rw [onChars] at h
  rcases hv : evaluate (String.ofList content) s with ⟨e' | output, s''⟩
  · rw [hv] at h
    cases h
    rfl
  · rw [hv] at h
    cases h

theorem onChars_eq_ok {output : List Char} (h : onChars evaluate content s = (.ok output, s')) :
    evaluate (String.ofList content) s = (.ok (String.ofList output), s') := by
  rw [onChars] at h
  rcases hv : evaluate (String.ofList content) s with ⟨e | output', s''⟩
  · rw [hv] at h
    cases h
  · rw [hv] at h
    cases h
    rw [String.ofList_toList]

end OnChars

end Substitution

/-- The bounds of the first innermost substitution of a text. -/
def findInnermost (s : String) : Option (Nat × Nat) :=
  (Substitution.innermost? s.toList).map Substitution.Span.bounds

/-- Expands the substitutions of a text. A limit below zero allows no pass at all. -/
def expandSubstitutions {σ ε : Type} (exceeded : ε) (evaluate : String → σ → Except ε String × σ)
    (limit : Int) (text : String) (s : σ) : Except ε String × σ :=
  let (expanded, s) :=
    Substitution.expand exceeded (Substitution.onChars evaluate) limit.toNat text.toList s
  (expanded.map String.ofList, s)

end CommandShell.Syntax
