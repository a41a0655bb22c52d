import CommandShell.Console

/-!
The console as a program on standard input and output. Its files are its own: they start with an
empty home directory and last as long as the conversation.
-/

namespace CommandShell.Console

def home : Place :=
  ["home", "user"]

/-- The levels that the host has for the console. -/
def room : Nat := 999

def surroundings : Surroundings where
  disk := { Disk.empty.install home .directory with start := home }
  environment := OrderedMap.ofList [("HOME", "/home/user"), ("PATH", "/bin:/usr/bin")]
  accounts := ⟨some "/home/user", fun _ => none⟩
  exchange :=
    { Chat.Exchange.inTurn [] Chat.secondsClock.start with
      bound := Json.Bound.ofRoom (some room) }
  room := some room

/-- Answers line after line until the input ends, a command asks to leave, or there is a fault. -/
partial def loop (input output : IO.FS.Stream) (s : Shell) : IO (Option Fault) := do
  if s.session.exitRequested then return none
  if let some message := Encoding.utf8.refusal? (prompt s) then
    return some (.unprintable message)
  output.putStr (Text.toPlain (prompt s))
  output.flush
  let line ← input.getLine
  if line.isEmpty then
    output.putStrLn ""
    return none
  let line := if line.endsWith "\n" then (line.dropEnd 1).toString else line
  let (printed, fault, s) := respondOnStack .utf8 room (Text.ofPlain line) s
  output.putStr (Text.toPlain printed)
  match fault with
  | some f => return some f
  | none => loop input output s

end CommandShell.Console

open CommandShell in
def main : IO UInt32 := do
  let output ← IO.getStdout
  let fault ←
    match (Console.open_ Console.surroundings).1 with
    | .error f => pure (some f)
    | .ok s => do
        output.putStr Console.banner
        Console.loop (← IO.getStdin) output s
  match fault with
  | none => return 0
  | some f =>
      output.flush
      let shown :=
        match f.shown with
        | .ok text => text
        | .error _ => "<exception str() failed>"
      (← IO.getStderr).putStrLn (Text.toPlain shown)
      return 1
