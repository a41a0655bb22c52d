import CommandShell.Files.Fault

/-!
Paths as they are typed, seen from a base directory and with a tilde for a home directory. The
outcome is normal, and resolving it again changes nothing.
-/

namespace CommandShell

/-- The home directories that are known. -/
structure Accounts where
  /-- That of the account in use. -/
  own : Option String
  /-- That of the account with a name. -/
  home? : String → Option String

namespace Path

/-- The home directory with what follows it; nothing at all is the root. -/
def underHome (home : String) (rest : List Char) : String :=
  let all := (home.toList.reverse.dropWhile (· = '/')).reverse ++ rest
  if all.isEmpty then "/" else String.ofList all

/-- The home directory of an account; no name stands for the one in use. What can be no name is a
fault. -/
def homeOf (accounts : Accounts) (name : String) : Except FileFault (Option String) :=
  if name = "" then .ok accounts.own
  else
    match FileFault.ofName? name with
    | some f => .error f
    | none => .ok (accounts.home? name)

/-- A leading tilde, with the name of an account up to the next slash, stands for a home directory.
Where none is known the text is kept. -/
def expandHome (accounts : Accounts) (raw : String) : Except FileFault String :=
  match raw.toList with
  | '~' :: cs =>
      match homeOf accounts (String.ofList (cs.takeWhile (· ≠ '/'))) with
      | .error f => .error f
      | .ok none => .ok raw
      | .ok (some home) => .ok (underHome home (cs.dropWhile (· ≠ '/')))
  | _ => .ok raw

/-- The path that a text names as seen from a base directory. -/
def resolve (accounts : Accounts) (base : Path) (raw : String) : Except FileFault Path :=
  match expandHome accounts raw with
  | .error f => .error f
  | .ok text => .ok (base.join (ofString text)).normalize

end Path

end CommandShell
