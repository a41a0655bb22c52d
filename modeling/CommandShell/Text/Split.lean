/-! Lists cut into parts. -/

namespace CommandShell.Text

/-- A list cut at each element of some kind; those elements are in no part. -/
def splitAt {α : Type} (isMark : α → Bool) : List α → List (List α)
  | [] => [[]]
  | a :: rest =>
      if isMark a then [] :: splitAt isMark rest
      else
        match splitAt isMark rest with
        | [] => [[a]]
        | first :: others => (a :: first) :: others

end CommandShell.Text
