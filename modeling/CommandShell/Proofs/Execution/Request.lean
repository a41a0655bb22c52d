import CommandShell.Proofs.Execution.Knot

/-! What a host may ask of a shell, answered and watched. -/

namespace CommandShell.Stack

/-- A request of a host. A text that is missing is taken for an empty one. -/
inductive Request
  | line (line : Option String)
  | execute (line : Option String)
  | parse (raw : Option String)
  | expand (text : Option String)
  | dispatch (i : Invocation)
  deriving DecidableEq, Repr

namespace Request

open Watched (through still outcome after_erased)

/-- What a request is answered with. -/
abbrev Answer : Request → Type
  | line _ => List Result
  | execute _ => Option String
  | parse _ => Option Invocation
  | expand _ => String
  | dispatch _ => Result

/-- Answers a request. -/
def serve (room : Room) : (q : Request) → Action q.Answer
  | line l => runInput room l
  | execute l => Stack.execute room l
  | parse raw => Stack.parse room (raw.getD "")
  | expand text => expandSubstitutions room (text.getD "")
  | dispatch i => Stack.dispatch room i

/-- A line that may be missing, with all that it sets about. -/
def watchInput (room : Room) : Option String → Watched (List Result)
  | none => still (runInput room none)
  | some text => watchLine room text

/-- Answers a request and shows all that it sets about. -/
def watch (room : Room) : (q : Request) → Watched q.Answer
  | line l => watchInput room l
  | execute l =>
      through (after [.entry] room)
        (outcome (·.map Result.shown) (watchInput (room.above 1) l))
  | parse raw => through (after [.entry] room) (watchLine.parse (room.above 1) (raw.getD ""))
  | expand text => watchLine.expansion room (text.getD "")
  | dispatch i => watchLine.call room i

theorem watchInput_erased (room : Room) (l : Option String) :
    (watchInput room l).action = runInput room l := by
  cases l with
  | none => rfl
  | some text => exact funext (watchLine_fst room text)

/-- Without its moments a request that is watched is the request. -/
theorem watch_erased (room : Room) (q : Request) : (q.watch room).action = q.serve room := by
  cases q with
  | line l => exact watchInput_erased room l
  | execute l =>
      have ho : (outcome (·.map Result.shown) (watchInput (room.above 1) l)).action = fun s =>
          ((runInput (room.above 1) l s).1.map Result.shown, (runInput (room.above 1) l s).2) := by
        rw [← watchInput_erased]
        rfl
      exact after_erased ho _ _
  | parse raw => exact after_erased (funext (watchLine_parse (room.above 1) (raw.getD ""))) _ _
  | expand text => exact funext (watchLine_expansion room (text.getD ""))
  | dispatch i => exact funext fun s => watchLine_call room s i

/-- The shell after a request, whether it was answered or failed. -/
def leaves (room : Room) (q : Request) (s : Shell) : Shell :=
  (q.serve room s).2

/-- All that is set about while a request is served. -/
def trace (room : Room) (q : Request) (s : Shell) : List Moment :=
  (q.watch room s).2

theorem watch_leaves (room : Room) (q : Request) (s : Shell) :
    (q.watch room s).1.2 = q.leaves room s :=
  congrArg Prod.snd (congrFun (q.watch_erased room) s)

/-- A request changes the session and nothing else of a shell. -/
theorem leaves_kept (room : Room) (q : Request) (s : Shell) : s.Kept (q.leaves room s) := by
  cases q with
  | line l => exact runInput_framed room l s
  | execute l => exact execute_framed room l s
  | parse raw =>
      exact Framed.after (parseWith_framed runLine_framed (room.above 1) (raw.getD "")) _ _ s
  | expand text => exact expandWith_framed runLine_framed room (text.getD "") s
  | dispatch i => exact dispatchWith_kept runLine_framed room i s

end Request

end CommandShell.Stack
