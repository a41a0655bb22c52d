import CommandShell.Domain.Label
import CommandShell.Text.Split

/-! Domain names with letters from everywhere, by code points, and as plain characters. -/

namespace CommandShell.Domain

/-- The full stops of several scripts. Each ends a label. -/
def isStop (n : Nat) : Bool :=
  [0x2E, 0x3002, 0xFF0E, 0xFF61].contains n

/-- The labels of a name, and whether a stop follows the last of them. -/
def labels {α : Type} (isStop : α → Bool) (name : List α) : List (List α) × Bool :=
  let all := Text.splitAt isStop name
  if 1 < all.length ∧ (all.getLast?.any List.isEmpty) then (all.dropLast, true) else (all, false)

/-- A name written with plain characters. It may end in a dot, which then counts on top of the
greatest length. -/
def writeName (name : List Nat) : Except Fault (List Char) :=
  if maxName + 1 < name.length then .error .nameTooLong
  else
    let (all, isOpen) := labels isStop name
    match all.mapM writeLabel with
    | .error f => .error f
    | .ok all =>
        let cs := ['.'].intercalate (if isOpen then all ++ [[]] else all)
        if cs.length ≤ (if isOpen then maxName + 1 else maxName) then .ok cs
        else .error .nameTooLong

/-- The labels of a name that is written with plain characters. -/
def readName (cs : List Char) : Except Fault (List (List Nat)) :=
  if maxName + 1 < cs.length then .error .nameTooLong
  else (labels (· = '.') cs).1.mapM readLabel

end CommandShell.Domain
