import CommandShell.Text.Code

/-! Texts filled with blanks up to a width, and texts set side by side. -/

namespace CommandShell.Text

def padRight (width : Nat) (s : String) : String :=
  s ++ String.ofList (List.replicate (width - length s) ' ')

def padLeft (width : Nat) (s : String) : String :=
  String.ofList (List.replicate (width - length s) ' ') ++ s

def joinLines (ls : List String) : String :=
  String.intercalate "\n" ls

def joinWords (ws : List String) : String :=
  String.intercalate " " ws

end CommandShell.Text
