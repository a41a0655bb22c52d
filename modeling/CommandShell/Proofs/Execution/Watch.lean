import CommandShell.Proofs.Execution.Frame

/-! Runs that are watched. A watched run gives what the run gives and leaves, together with all that
it sets about, moment by moment, and the shell at each of them. It goes through the levels, the guard
and the passes of the run itself, and what is left when the moments are forgotten is that run. -/

namespace CommandShell.Stack

inductive Activity
  | line (text : String)
  | statement (text : String)
  | substitution (content : String)
  | call (i : Invocation)
  /-- A step in the procedure of a command. -/
  | work
  deriving DecidableEq, Repr

structure Moment where
  activity : Activity
  shell : Shell

/-- What is given or raised, the shell after it, and the moments on the way. -/
abbrev Watched (α : Type) := Shell → (Except Fault α × Shell) × List Moment

/-! ## Ways of watching -/

namespace Watched

variable {α β : Type}

/-- The action that is watched. -/
def action (w : Watched α) : Action α := fun s => (w s).1

/-- An action that sets about nothing to be seen. -/
def still (act : Action α) : Watched α := fun s => (act s, [])

/-- One moment before others. -/
def noting (a : Activity) (w : Watched α) : Watched α := fun s => ((w s).1, ⟨a, s⟩ :: (w s).2)

/-- An action and then another, which depends on what the first one gave or raised. -/
def andThen (w : Watched α) (next : Except Fault α → Watched β) : Watched β := fun s =>
  let rest := next (w s).1.1 (w s).1.2
  (rest.1, (w s).2 ++ rest.2)

/-- An action and then another, unless the first one fails. -/
def proceed (w : Watched α) (next : α → Watched β) : Watched β :=
  w.andThen fun
    | .ok a => next a
    | .error f => still fun s => (.error f, s)

/-- An action with something made of what it gives or raises. -/
def outcome (change : Except Fault α → Except Fault β) (w : Watched α) : Watched β := fun s =>
  ((change (w s).1.1, (w s).1.2), (w s).2)

/-- A way of acting, gone with an action that is watched. -/
def through (way : {β : Type} → Action β → Action β) (w : Watched α) : Watched α := fun s =>
  match way (fun s => (.ok ((w s).1.1, (w s).2), (w s).1.2)) s with
  | (.error f, s') => ((.error f, s'), [])
  | (.ok (r, ms), s') => ((r, s'), ms)

/-- An action on a shell that comes with the moments so far. -/
def logged (w : Watched α) (x : Shell × List Moment) : Except Fault α × Shell × List Moment :=
  ((w x.1).1.1, (w x.1).1.2, x.2 ++ (w x.1).2)

section Way

variable (w : Watched α) (s : Shell)

theorem through_after (c : Climb) (room : Room) :
    through (Stack.after c room) w s =
      match room.overflow? c with
      | some o => ((.error (.overflow o), s), [])
      | none => w s := by
  rw [through, Stack.after]
  cases room.overflow? c <;> rfl

theorem through_nested :
    through Stack.nested w s =
      if s.isFull then ((.error (.limit (.nesting s.maxDepth)), s), [])
      else (((w s.enter).1.1, (w s.enter).1.2.leave), (w s.enter).2) := by
  rw [through, Stack.nested]
  cases s.isFull <;> rfl

theorem through_guarded :
    through Stack.guarded w s =
      (((w { s with expanding := true }).1.1,
        { (w { s with expanding := true }).1.2 with expanding := false }),
        (w { s with expanding := true }).2) :=
  rfl

variable {w s}

theorem proceed_of_ok {a : α} {s' : Shell} (h : (w s).1 = (.ok a, s')) (next : α → Watched β) :
    w.proceed next s = ((next a s').1, (w s).2 ++ (next a s').2) := by
  rw [proceed, andThen, h]

theorem proceed_of_error {f : Fault} {s' : Shell} (h : (w s).1 = (.error f, s'))
    (next : α → Watched β) : w.proceed next s = ((.error f, s'), (w s).2) := by
  simp [proceed, andThen, h, still]

theorem proceed_of_quiet {next : α → Watched β} (h : ∀ a s, (next a s).2 = []) :
    (w.proceed next s).2 = (w s).2 := by
  rcases hv : (w s).1 with ⟨f | a, s'⟩
  · rw [proceed_of_error hv]
  · rw [proceed_of_ok hv, h, List.append_nil]

/-! What is watched goes the same way. -/

variable {act : Action α} (h : w.action = act)
include h

theorem after_erased (c : Climb) (room : Room) :
    (through (Stack.after c room) w).action = Stack.after c room act := by
  funext s
  rw [action, through_after, Stack.after, ← h]
  cases room.overflow? c <;> rfl

theorem nested_erased : (through Stack.nested w).action = Stack.nested act := by
  funext s
  rw [action, through_nested, Stack.nested, ← h]
  cases s.isFull <;> rfl

theorem guarded_erased : (through Stack.guarded w).action = Stack.guarded act := by
  rw [← h]
  rfl

theorem rescue_erased (catches : Fault → Bool) (recover : String → α) :
    (outcome (recovered catches recover) w).action = Stack.rescue catches recover act := by
  rw [← h]
  rfl

end Way

end Watched

/-- A way to run a line and to watch it. -/
abbrev Watcher := Room → String → Watched (List Result)

namespace Watcher

open Watched
open Syntax.Substitution (Span expand onChars innermost? expand_of_none expand_zero expand_succ)

section Definitions

variable (w : Watcher) (room : Room)

/-- The runner that is watched. -/
def runner : Runner := fun room line => (w room line).action

/-! ## Commands -/

def procedure : Procedure → Watched Output
  | .finish act =>
      noting .work (still fun s => ((act s.session).1, { s with session := (act s.session).2 }))
  | .inspect next => noting .work fun s => procedure (next s.session) s
  | .update change next =>
      noting .work fun s => procedure next { s with session := change s.session }
  | .line text next => noting .work ((w room text).proceed fun rs => procedure (next rs))

def perform (c : Command) (args : List String) : Watched Output := fun s =>
  match room.bind fun levels => c.strain s.registry.directory levels args s.session with
  | some (o, session) => ((.error (.overflow o), { s with session }), [])
  | none =>
      (w.procedure room (c.handler s.registry.directory args)).proceed
        (fun output => through (after output.resultClimb room) (still fun s => (.ok output, s))) s

def call (i : Invocation) : Watched Result :=
  noting (.call i) fun s =>
    match s.registry.find? i.name with
    | none => still (fun s => (.ok (.failure (Complaint.commandNotFound i.name).message), s)) s
    | some c =>
        outcome Result.ofOutcome (w.perform (room.above commandLevels) c i.args)
          (if c.card.name = clearName then s.announceClear else s)

/-! ## Substitutions -/

/-- The call that takes the place of a substitution. -/
def substitute : Option Invocation → Watched String
  | none => still fun s => (.ok "", s)
  | some i => fun s =>
      through (after (nestingClimb s.isFull) room)
        (through nested (outcome (·.map substituted) (w.call (room.above 1) i))) s

def evaluate (content : String) : Watched String :=
  noting (.substitution content)
    (through (after evaluatingClimb room)
      (outcome (recovered Fault.isConsole (errorLabel ++ ·))
        ((still (parsePlain (room.above 1) content)).proceed (w.substitute room))))

/-- The passes over a text. -/
def passes (exceeded : Fault) (count : Nat) (text : List Char) : Watched (List Char) := fun s =>
  let r := expand exceeded (onChars fun content => (w.evaluate room content).logged) count text
    (s, [])
  ((r.1, r.2.1), r.2.2)

def expansion (text : String) : Watched String :=
  through (after (searchingClimb text) room) fun s =>
    let r := Syntax.expandSubstitutions (passesExceeded room s.maxPasses)
      (fun content => (w.evaluate (room.above 1) content).logged) s.maxPasses text (s, [])
    ((r.1, r.2.1), r.2.2)

def parse (raw : String) : Watched (Option Invocation) :=
  through (after [.entry] room) fun s =>
    if Text.isBlankText raw then ((.ok none, s), [])
    else if s.expanding then ((read room raw s, s), [])
    else
      (through guarded (w.expansion (room.above 1) raw)).proceed
        (fun text => still fun s => (read room text s, s)) s

/-! ## Lines -/

/-- What follows once it is known what a statement calls. -/
def following : Except Fault (Option Invocation) → Watched (Option Result)
  | .error f => still fun s =>
      (recovered Fault.isConsole (fun text => some (.failure text)) (.error f), s)
  | .ok none => still fun s => (.ok none, s)
  | .ok (some i) => outcome (·.map some) (w.call room i)

def statement (text : String) : Watched (Option Result) :=
  noting (.statement text) ((w.parse room text).andThen (w.following room))

def statements : List String → Watched (List Result)
  | [] => still fun s => (.ok [], s)
  | text :: rest =>
      (w.statement room text).proceed fun r => outcome (·.map (r.toList ++ ·)) (statements rest)

/-- A line, with a watcher for the lines inside it. -/
def lineWith (inner : Watcher) : Watcher := fun room line =>
  noting (.line line)
    (through (after [.entry] room) fun s =>
      if Text.isBlankText line then ((.ok [], s), [])
      else
        through (after (lineClimb s.isFull) room)
          (outcome (recovered Fault.isLimit fun message => [.failure message])
            (through nested
              (inner.statements (room.above lineLevels) (Syntax.splitStatements line)))) s)

def lineWithin : Nat → Watcher
  | 0 => lineWith fun _ _ => still fun s => (.ok [], s)
  | count + 1 => lineWith (lineWithin count)

end Definitions

/-! ## What is watched -/

section Erasure

variable (w : Watcher) (room : Room)

theorem procedure_erased (p : Procedure) :
    (w.procedure room p).action = runProcedure (w.runner room) p := by
  induction p with
  | finish act => rfl
  | inspect next ih =>
      funext s
      exact congrFun (ih s.session) s
  | update change next ih =>
      funext s
      exact congrFun ih { s with session := change s.session }
  | line text next ih =>
      funext s
      rw [action, procedure, noting, proceed, andThen, runProcedure, runner, action]
      rcases w room text s with ⟨⟨f | rs, s'⟩, ms⟩
      · rfl
      · exact congrFun (ih rs) s'

theorem perform_erased (c : Command) (args : List String) :
    (w.perform room c args).action = Stack.perform w.runner room c args := by
  funext s
  rw [action, perform, Stack.perform]
  cases room.bind fun levels => c.strain s.registry.directory levels args s.session with
  | some overrun => rfl
  | none =>
      dsimp only
      rw [← procedure_erased, proceed, andThen, action]
      rcases w.procedure room (c.handler s.registry.directory args) s with ⟨⟨f | output, s'⟩, ms⟩
      · rfl
      · exact congrFun (after_erased rfl _ _) s'

theorem call_erased (i : Invocation) :
    (w.call room i).action = dispatchWith w.runner room i := by
  funext s
  rw [action, call, noting, dispatchWith]
  cases s.registry.find? i.name with
  | none => rfl
  | some c =>
      dsimp only
      rw [← perform_erased]
      rfl

theorem evaluate_erased (content : String) :
    (w.evaluate room content).action = Stack.evaluate w.runner room content := by
  refine after_erased (rescue_erased ?_ _ _) _ _
  funext s
  rw [action, proceed, andThen, still]
  rcases parsePlain (room.above 1) content s with ⟨f | _ | i, s'⟩
  · rfl
  · rfl
  · refine congrFun (after_erased (nested_erased ?_) _ _) s'
    rw [← call_erased]
    rfl

/-- The loop over the passes makes nothing of the moments. -/
theorem expand_erased (exceeded : Fault) (count : Nat) (text : List Char)
    (x : Shell × List Moment) :
    let r := expand exceeded (onChars fun content => (w.evaluate room content).logged) count text x
    (r.1, r.2.1) = expand exceeded (onChars (Stack.evaluate w.runner room)) count text x.1 := by
  induction count generalizing text x with
  | zero =>
      cases hs : innermost? text with
      | none => rw [expand_of_none hs, expand_of_none hs]
      | some span => rw [expand_zero hs, expand_zero hs]
  | succ count ih =>
      cases hs : innermost? text with
      | none => rw [expand_of_none hs, expand_of_none hs]
      | some span =>
          have hv : Stack.evaluate w.runner room (String.ofList span.content) x.1 =
              (w.evaluate room (String.ofList span.content) x.1).1 := by
            rw [← evaluate_erased]
            rfl
          rw [expand_succ hs, expand_succ hs]
          simp only [onChars, logged, hv]
          rcases w.evaluate room (String.ofList span.content) x.1 with ⟨⟨f | output, s'⟩, ms⟩
          · rfl
          · exact ih _ (s', x.2 ++ ms)

theorem expansion_erased (text : String) :
    (w.expansion room text).action = Stack.expandWith w.runner room text := by
  refine after_erased ?_ _ _
  funext s
  have he := w.expand_erased (room.above 1) (passesExceeded room s.maxPasses) s.maxPasses.toNat
    text.toList (s, [])
  simp only [action, Syntax.expandSubstitutions, ← he]

theorem parse_erased (raw : String) :
    (w.parse room raw).action = Stack.parseWith w.runner room raw := by
  refine after_erased ?_ _ _
  funext s
  rw [action]
  cases Text.isBlankText raw with
  | true => rfl
  | false =>
      cases s.expanding with
      | true => rfl
      | false =>
          have hg := guarded_erased (expansion_erased w (room.above 1) raw)
          simp only [Bool.false_eq_true, ↓reduceIte, proceed, andThen, ← hg, action]
          rcases through guarded (w.expansion (room.above 1) raw) s with ⟨⟨f | text, s'⟩, ms⟩ <;> rfl

theorem statement_erased (text : String) :
    (w.statement room text).action = Stack.runStatement w.runner room text := by
  funext s
  rw [action, statement, noting, andThen, Stack.runStatement, ← parse_erased, action]
  rcases w.parse room text s with ⟨⟨f | _ | i, s'⟩, ms⟩
  · rfl
  · rfl
  · dsimp only
    rw [← call_erased]
    rfl

theorem statements_erased (texts : List String) :
    (w.statements room texts).action = Stack.runStatements w.runner room texts := by
  induction texts with
  | nil => rfl
  | cons text rest ih =>
      funext s
      rw [action, statements, proceed, andThen, Stack.runStatements, ← statement_erased, action,
        ← ih]
      rcases w.statement room text s with ⟨⟨f | r, s'⟩, ms⟩ <;> rfl

theorem lineWith_erased : (lineWith w).runner = runLineWith w.runner := by
  funext room line
  refine after_erased ?_ _ _
  funext s
  rw [action]
  cases Text.isBlankText line with
  | true => rfl
  | false =>
      refine congrFun (after_erased (rescue_erased (nested_erased ?_) _ _) _ _) s
      exact statements_erased w _ _

theorem lineWithin_erased (count : Nat) : (lineWithin count).runner = runLineWithin count := by
  induction count with
  | zero => exact lineWith_erased _
  | succ count ih => rw [lineWithin, lineWith_erased, ih, runLineWithin]

end Erasure

/-! ## The passes, one by one -/

section Passes

variable {w : Watcher} {room : Room} {exceeded : Fault} {text : List Char} {span : Span}

/-- The moments so far stay in front of those of the passes. -/
theorem expand_logged (count : Nat) (text : List Char) (s : Shell) (ms : List Moment) :
    expand exceeded (onChars fun content => (w.evaluate room content).logged) count text (s, ms) =
      ((w.passes room exceeded count text s).1.1, (w.passes room exceeded count text s).1.2,
        ms ++ (w.passes room exceeded count text s).2) := by
  induction count generalizing text s ms with
  | zero =>
      cases hs : innermost? text with
      | none => simp [passes, expand_of_none hs]
      | some span => simp [passes, expand_zero hs]
  | succ count ih =>
      cases hs : innermost? text with
      | none => simp [passes, expand_of_none hs]
      | some span =>
          simp only [passes, expand_succ hs, onChars, logged]
          rcases w.evaluate room (String.ofList span.content) s with ⟨⟨f | output, s'⟩, ms'⟩
          · simp [Except.map]
          · simp [Except.map, ih]

theorem passes_of_none (h : innermost? text = none) (count : Nat) :
    w.passes room exceeded count text = still fun s => (.ok text, s) := by
  funext s
  simp [passes, still, expand_of_none h]

theorem passes_zero (h : innermost? text = some span) :
    w.passes room exceeded 0 text = still fun s => (.error exceeded, s) := by
  funext s
  simp [passes, still, expand_zero h]

/-- A pass evaluates the first innermost substitution and goes on with the output in its place. -/
theorem passes_succ (h : innermost? text = some span) (count : Nat) :
    w.passes room exceeded (count + 1) text =
      (w.evaluate room (String.ofList span.content)).proceed fun output =>
        w.passes room exceeded count (span.before ++ output.toList ++ span.after) := by
  funext s
  rw [passes, expand_succ h, proceed, andThen]
  simp only [onChars, logged]
  rcases w.evaluate room (String.ofList span.content) s with ⟨⟨f | output, s'⟩, ms⟩
  · simp [Except.map, still]
  · simp [Except.map, expand_logged]

theorem expansion_eq (text : String) :
    w.expansion room text = through (after (searchingClimb text) room) fun s =>
      outcome (·.map String.ofList)
        (w.passes (room.above 1) (passesExceeded room s.maxPasses) s.maxPasses.toNat text.toList)
        s :=
  rfl

end Passes

end Watcher

/-- A line with all that it sets about, the lines that its commands run included. -/
def watchLine : Watcher := fun room line s =>
  Watcher.lineWithin s.depthLeft room line s

theorem watchLine_erased : watchLine.runner = runLine := by
  funext room line s
  exact congrFun (congrFun (congrFun (Watcher.lineWithin_erased s.depthLeft) room) line) s

section Line

variable (room : Room) (text : String) (s : Shell)

theorem watchLine_fst : (watchLine room text s).1 = runLine room text s := by
  rw [← watchLine_erased]
  rfl

theorem watchLine_call (i : Invocation) :
    (watchLine.call room i s).1 = dispatchWith runLine room i s := by
  rw [← watchLine_erased, ← Watcher.call_erased]
  rfl

theorem watchLine_evaluate :
    (watchLine.evaluate room text s).1 = evaluate runLine room text s := by
  rw [← watchLine_erased, ← Watcher.evaluate_erased]
  rfl

theorem watchLine_expansion :
    (watchLine.expansion room text s).1 = expandWith runLine room text s := by
  rw [← watchLine_erased, ← Watcher.expansion_erased]
  rfl

theorem watchLine_parse : (watchLine.parse room text s).1 = parseWith runLine room text s := by
  rw [← watchLine_erased, ← Watcher.parse_erased]
  rfl

theorem watchLine_statement :
    (watchLine.statement room text s).1 = runStatement runLine room text s := by
  rw [← watchLine_erased, ← Watcher.statement_erased]
  rfl

theorem watchLine_statements (texts : List String) :
    (watchLine.statements room texts s).1 = runStatements runLine room texts s := by
  rw [← watchLine_erased, ← Watcher.statements_erased]
  rfl

end Line

end CommandShell.Stack
