/-!
File paths by their text alone. Empty parts and single dots are dropped when a path is read;
`normalize` also takes away each `..` with the part before it.
-/

namespace CommandShell

inductive Path.Root
  | relative
  | slash
  /-- Exactly two slashes, which are kept apart from one. -/
  | doubleSlash
  deriving DecidableEq, Repr

structure Path where
  root : Path.Root
  parts : List String
  deriving DecidableEq, Repr

namespace Path

def splitSlash : List Char → List (List Char)
  | [] => [[]]
  | c :: rest =>
      if c = '/' then [] :: splitSlash rest
      else
        match splitSlash rest with
        | [] => [[c]]
        | part :: others => (c :: part) :: others

def rootOf (cs : List Char) : Root :=
  match (cs.takeWhile (· = '/')).length with
  | 0 => .relative
  | 2 => .doubleSlash
  | _ => .slash

def ofString (s : String) : Path where
  root := rootOf s.toList
  parts := ((splitSlash s.toList).map String.ofList).filter fun p => p ≠ "" ∧ p ≠ "."

def Root.text : Root → String
  | relative => ""
  | slash => "/"
  | doubleSlash => "//"

def text (p : Path) : String :=
  if p.root = .relative ∧ p.parts = [] then "."
  else p.root.text ++ String.intercalate "/" p.parts

instance : ToString Path :=
  ⟨text⟩

def isAbsolute (p : Path) : Bool :=
  p.root ≠ .relative

/-- A path read from a base; an absolute path stands for itself. -/
def join (base p : Path) : Path :=
  if p.isAbsolute then p else ⟨base.root, base.parts ++ p.parts⟩

/-- Adds a part to the parts before it, the latest first. Above the root there is nothing. -/
def pushPart (absolute : Bool) (before : List String) (part : String) : List String :=
  if part = ".." then
    match before with
    | [] => if absolute then [] else [".."]
    | last :: others => if last = ".." then ".." :: before else others
  else part :: before

def normalize (p : Path) : Path :=
  ⟨p.root, (p.parts.foldl (pushPart p.isAbsolute) []).reverse⟩

def parent (p : Path) : Path :=
  ⟨p.root, p.parts.dropLast⟩

def name (p : Path) : String :=
  p.parts.getLast?.getD ""

end Path

end CommandShell
