import CommandShell.Text.Word

/-!
References to variables in a text: a dollar sign with a name, which runs as far as word characters
go, or with a name in braces. Values are put in as they are and are not read again.
-/

namespace CommandShell.Syntax

inductive Piece
  | plain (c : Char)
  | reference (name : List Char) (braced : Bool)
  deriving DecidableEq, Repr

namespace Piece

/-- The name in braces at the head of a text, and what follows the closing brace. -/
def braced? : List Char → Option (List Char × List Char)
  | '\x7b' :: inner =>
      match inner.dropWhile Text.isWord with
      | '\x7d' :: after =>
          if (inner.takeWhile Text.isWord).isEmpty then none
          else some (inner.takeWhile Text.isWord, after)
      | _ => none
  | _ => none

theorem braced?_length {cs name after : List Char} (h : braced? cs = some (name, after)) :
    after.length < cs.length := by
  cases cs with
  | nil => simp [braced?] at h
  | cons c inner =>
      unfold braced? at h
      split at h
      · next inner' heq =>
          cases heq
          have hle := (List.dropWhile_sublist Text.isWord (l := inner)).length_le
          split at h
          · next after' hd =>
              split at h
              · simp at h
              · simp only [Option.some.injEq, Prod.mk.injEq] at h
                rw [hd, h.2] at hle
                simp only [List.length_cons] at hle ⊢
                omega
          · simp at h
      · simp at h

/-- Cuts a text into plain characters and references, left to right. -/
def split (cs : List Char) : List Piece :=
  match cs with
  | [] => []
  | c :: rest =>
      if c = '$' then
        if (rest.takeWhile Text.isWord).isEmpty then
          match h : braced? rest with
          | some (name, after) =>
              have := braced?_length h
              reference name true :: split after
          | none => plain '$' :: split rest
        else
          have := (List.dropWhile_sublist Text.isWord (l := rest)).length_le
          reference (rest.takeWhile Text.isWord) false :: split (rest.dropWhile Text.isWord)
      else plain c :: split rest
termination_by cs.length

/-- A piece as it stands in the text. -/
def raw : Piece → List Char
  | plain c => [c]
  | reference name false => '$' :: name
  | reference name true => '$' :: '\x7b' :: name ++ ['\x7d']

/-- An unknown name stays as it stands. -/
def expand (value? : List Char → Option (List Char)) : Piece → List Char
  | plain c => [c]
  | reference name braced => (value? name).getD (raw (reference name braced))

end Piece

def expandChars (value? : List Char → Option (List Char)) (cs : List Char) : List Char :=
  (Piece.split cs).flatMap (Piece.expand value?)

/-- Whether a text refers to a variable at all. -/
def holdsReference (s : String) : Bool :=
  (Piece.split s.toList).any fun
    | .plain _ => false
    | .reference .. => true

/-- Replaces the references to known names by their values. -/
def expandReferences (value? : String → Option String) (s : String) : String :=
  String.ofList
    (expandChars (fun name => (value? (String.ofList name)).map String.toList) s.toList)

end CommandShell.Syntax
