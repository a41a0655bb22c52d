import CommandShell.Files.Disk

/-! Programs, found by their name along a list of directories. -/

namespace CommandShell.Executable

/-- The directories that are searched when none are given. -/
def defaultSearch : String := "/bin:/usr/bin"

/-- A text cut at each colon. -/
def directories : List Char → List (List Char)
  | [] => [[]]
  | c :: rest =>
      if c = ':' then [] :: directories rest
      else
        match directories rest with
        | [] => [[c]]
        | dir :: others => (c :: dir) :: others

/-- A name in a directory; the directory without a name is where relative paths begin. -/
def under (dir name : List Char) : List Char :=
  if dir.isEmpty ∨ dir.getLast? = some '/' then dir ++ name else dir ++ '/' :: name

/-- Whether a path ends as only the path of a directory may. -/
def endsAsDirectory (cs : List Char) : Bool :=
  ['/'].isSuffixOf cs || ['/', '.'].isSuffixOf cs

def isExecutable (d : Disk) (cs : List Char) : Bool :=
  if endsAsDirectory cs then false
  else
    match d.need (Path.ofString (String.ofList cs)) with
    | .ok (_, .file _ executable) => executable
    | _ => false

/-- The path of a program. A name with a slash is such a path itself; others are searched for, and
the first match counts. -/
def find? (d : Disk) (search : Option String) (name : String) : Option String :=
  let name := name.toList
  let candidates :=
    if name.contains '/' then [name]
    else
      let search := search.getD defaultSearch
      if search.isEmpty then [] else (directories search.toList).map (under · name)
  (candidates.find? (isExecutable d)).map String.ofList

end CommandShell.Executable
