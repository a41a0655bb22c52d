import CommandShell.Command.Command

/-! The commands that clear the console and leave it. -/

namespace CommandShell.Builtin

/-- Shows nothing; that the screen is cleared is the business of whoever calls it. -/
def clear : Command where
  card := ⟨"clear", "Clears the console output", "clear", ["cls"]⟩
  handler _ _ := .answer (.ok (.text ""))
  strain := .slight

def exit : Command where
  card := ⟨"exit", "Exits the application.", "exit", []⟩
  handler := .ofAction fun _ s =>
    { s with exitRequested := true }.answer (.text "Exiting application...")
  strain := .slight

end CommandShell.Builtin
