import CommandShell.Console
import CommandShell.Proofs.Builtin.Worded
import CommandShell.Proofs.Execution.Overflow

/-!
What a conversation comes to. Its lines are executed one after the other, as they would be without a
console, and what is printed is put together from the prompts, the clearings and the texts of these
executions. It ends at the first line that asks to leave, with the last one, at one that overflows
the stack, or at a text that standard output does not take.
-/

namespace CommandShell

namespace Stack

/-! ## Clearings -/

/-- Whether a moment is a call that clears the screen of a host that wants to know. -/
def Moment.clearsScreen : Moment → Bool
  | ⟨.call i, s⟩ => s.announcesClear && (s.registry.find? i.name).any (·.card.name = clearName)
  | _ => false

/-- How often the screen is cleared. -/
def clearings (ms : List Moment) : Nat :=
  ms.countP Moment.clearsScreen

def Cleared (ms : List Moment) (x y : Session) : Prop :=
  y.clears = x.clears + clearings ms

theorem clearsScreen_of_not_call {a : Activity} (s : Shell) (ha : a.isCall = false) :
    Moment.clearsScreen ⟨a, s⟩ = false := by
  cases a with
  | call i => contradiction
  | _ => rfl

theorem announced_clears {i : Invocation} {c : Command} {s : Shell}
    (hf : s.registry.find? i.name = some c) :
    Cleared [⟨.call i, s⟩] s.session
      (if c.card.name = clearName then s.announceClear else s).session := by
  have hm : Moment.clearsScreen ⟨.call i, s⟩ =
      (s.announcesClear && decide (c.card.name = clearName)) := by
    rw [Moment.clearsScreen, hf]
    rfl
  rw [Cleared, clearings, List.countP_singleton, hm, Shell.announceClear]
  by_cases hc : c.card.name = clearName <;> cases ha : s.announcesClear <;> simp [hc]

/-- Nothing but these calls clears the screen. -/
theorem clear_account : Account Builtin.registry Cleared where
  still x := rfl
  next {ms ms' x y z} h h' := by
    rw [Cleared, clearings, List.countP_append, h', h, ← Nat.add_assoc]
    rfl
  seen s ha := by
    rw [Cleared, clearings, List.countP_singleton, clearsScreen_of_not_call s ha]
    rfl
  unknown {i s} hr hf := by
    rw [Cleared, clearings, List.countP_singleton, Moment.clearsScreen, hr, hf, Option.any_none,
      Bool.and_false]
    rfl
  called {i c s} hr hf := by
    obtain ⟨hm, -⟩ := Builtin.mem_all_of_find? hf
    have hd := Builtin.builtin_does Builtin.registry.directory i.args c hm
    exact .inr ⟨announced_clears (hr ▸ hf), hd.mono fun x y hg => hg.clears_eq⟩

theorem execute_cleared {room : Room} {line : String} {s : Shell}
    (hs : s.registry = Builtin.registry) :
    Cleared ((Request.execute (some line)).trace room s) s.session
      (execute room (some line) s).2.session :=
  clear_account.request room (.execute (some line)) s hs

/-- Executing a line fails where the stack is used up, and nowhere else. -/
theorem execute_spills {room : Room} {line : String} {s : Shell} {f : Fault}
    (hs : Among Builtin.registry Session.Writable s)
    (h : (execute room (some line) s).1 = .error f) : Spills room f := by
  rcases after_error h with h | h
  · exact h
  · exact (Builtin.runLine_spills hs (Except.map_eq_error_iff.mp h)).below

end Stack

namespace Console

/-! ## Lines -/

/-- Some lines as one text, each with its end. -/
def joined (lines : List String) : String :=
  String.join (lines.map (· ++ "\n"))

/-- Whether lines are those of a text. They hold no newline and each of them ends with one, but a
last one that is not empty may go without. -/
structure AreLines (text : String) (lines : List String) : Prop where
  newline_not_mem : ∀ line ∈ lines, '\n' ∉ line.toList
  text_eq : text = joined lines ∨
    ∃ before last, lines = before ++ [last] ∧ last ≠ "" ∧ text = joined before ++ last

theorem toList_joined (lines : List (List Char)) :
    (joined (lines.map String.ofList)).toList = lines.flatMap (· ++ ['\n']) := by
  simp [joined, String.toList_join, List.flatMap_map]

theorem newline_not_mem {cs line : List Char} (h : line ∈ inputLines cs) : '\n' ∉ line := by
  induction cs generalizing line with
  | nil => contradiction
  | cons c rest ih =>
      rw [inputLines] at h
      split at h
      · rcases List.mem_cons.mp h with rfl | h
        · exact List.not_mem_nil
        · exact ih h
      · next hc =>
          split at h
          · rw [List.mem_singleton.mp h, List.mem_singleton]
            exact Ne.symm hc
          · next first others hl =>
              rw [hl] at ih
              rcases List.mem_cons.mp h with rfl | h
              · rw [List.mem_cons, not_or]
                exact ⟨Ne.symm hc, ih List.mem_cons_self⟩
              · exact ih (List.mem_cons_of_mem _ h)

theorem inputLines_joined (cs : List Char) :
    cs = (inputLines cs).flatMap (· ++ ['\n']) ∨
      ∃ before last, inputLines cs = before ++ [last] ∧ last ≠ [] ∧
        cs = before.flatMap (· ++ ['\n']) ++ last := by
  induction cs with
  | nil => exact .inl rfl
  | cons c rest ih =>
      rw [inputLines]
      split
      · next hc =>
          subst hc
          rcases ih with h | ⟨before, last, hl, hn, h⟩
          · exact .inl (by rw [List.flatMap_cons, ← h]; rfl)
          · refine .inr ⟨[] :: before, last, by rw [hl]; rfl, hn, ?_⟩
            rw [List.flatMap_cons, List.append_assoc, ← h]
            rfl
      · split
        · next hl =>
            rw [hl] at ih
            rcases ih with rfl | ⟨before, last, h, -⟩
            · exact .inr ⟨[], [c], rfl, List.cons_ne_nil c [], rfl⟩
            · exact absurd h.symm (List.append_ne_nil_of_right_ne_nil before (List.cons_ne_nil _ _))
        · next first others hl =>
            rw [hl] at ih
            rcases ih with h | ⟨before, last, ho, hn, h⟩
            · exact .inl (by rw [h]; rfl)
            · cases before with
              | nil =>
                  obtain ⟨rfl, rfl⟩ := List.cons.inj ho
                  exact .inr ⟨[], c :: first, rfl, List.cons_ne_nil c first, by rw [h]; rfl⟩
              | cons line before =>
                  obtain ⟨rfl, rfl⟩ := List.cons.inj ho
                  exact .inr ⟨(c :: first) :: before, last, rfl, hn, by rw [h]; rfl⟩

theorem areLines_linesOf (text : String) : AreLines text (linesOf text) where
  newline_not_mem line h := by
    obtain ⟨cs, hc, rfl⟩ := List.mem_map.mp h
    rw [String.toList_ofList]
    exact newline_not_mem hc
  text_eq := by
    rw [linesOf]
    rcases inputLines_joined text.toList with h | ⟨before, last, hl, hn, h⟩
    · exact .inl (String.toList_injective (by rw [toList_joined]; exact h))
    · refine .inr ⟨before.map String.ofList, String.ofList last, ?_, ?_, ?_⟩
      · rw [hl, List.map_append]
        rfl
      · exact fun he => hn (by simpa using congrArg String.toList he)
      · apply String.toList_injective
        rw [String.toList_append, toList_joined, String.toList_ofList]
        exact h

/-! ## Executions -/

/-- The shell after some lines have been executed one after the other. -/
def executed (room : Room) (lines : List String) (s : Shell) : Shell :=
  lines.foldl (fun s line => (Stack.execute room (some line) s).2) s

/-- Whether something holds of each of some lines and the shell in which it is executed. -/
def AtEach (room : Room) (P : String → Shell → Prop) (lines : List String) (s : Shell) : Prop :=
  ∀ before line after, lines = before ++ line :: after → P line (executed room before s)

/-- Whether nothing has asked to leave. -/
def Stays (_ : String) (s : Shell) : Prop :=
  s.session.exitRequested = false

/-- Whether a line is answered: its prompt is printed, and executing it gives no text or one that is
printed as well. -/
structure Answers (e : Encoding) (room : Room) (line : String) (s : Shell) : Prop where
  prompted : e.refusal? (prompt s) = none
  answered : ∃ out, (Stack.execute room (some line) s).1 = .ok out ∧
    ∀ text ∈ out, e.refusal? text = none

/-- What a line shows: the clearings while it is executed, and then its text. -/
def shown (e : Encoding) (room : Room) (line : String) (s : Shell) : String :=
  String.join
      (List.replicate (Stack.clearings ((Stack.Request.execute (some line)).trace room s))
        clearScreen)
    ++ match (Stack.execute room (some line) s).1 with
      | .ok (some text) => if (e.refusal? text).isNone then text ++ "\n" else ""
      | _ => ""

/-- What is printed for some lines, each after a prompt. -/
def answers (e : Encoding) (room : Room) : List String → Shell → List String
  | [], _ => []
  | line :: rest, s =>
      prompt s :: shown e room line s ::
        answers e room rest (Stack.execute room (some line) s).2

/-- How a conversation ends, with what is printed at its end, after some lines have been taken and
others have not. -/
inductive Ending (e : Encoding) (room : Room) (s : Shell) :
    List String → List String → List String → Option Fault → Prop
  | left {taken rest} (ha : AtEach room (Answers e room) taken s)
      (h : (executed room taken s).session.exitRequested = true) :
      Ending e room s taken rest [] none
  | exhausted {taken} (ha : AtEach room (Answers e room) taken s)
      (h : (executed room taken s).session.exitRequested = false)
      (hp : e.refusal? (prompt (executed room taken s)) = none) :
      Ending e room s taken [] [prompt (executed room taken s), "\n"] none
  | unprompted {taken rest message} (ha : AtEach room (Answers e room) taken s)
      (h : (executed room taken s).session.exitRequested = false)
      (hp : e.refusal? (prompt (executed room taken s)) = some message) :
      Ending e room s taken rest [] (some (.unprintable message))
  | overflowed {before line rest f} (ha : AtEach room (Answers e room) before s)
      (hp : e.refusal? (prompt (executed room before s)) = none)
      (h : (Stack.execute room (some line) (executed room before s)).1 = .error f)
      (ho : Stack.Spills room f) : Ending e room s (before ++ [line]) rest [] (some f)
  | unprinted {before line rest text message} (ha : AtEach room (Answers e room) before s)
      (hp : e.refusal? (prompt (executed room before s)) = none)
      (h : (Stack.execute room (some line) (executed room before s)).1 = .ok (some text))
      (hr : e.refusal? text = some message) :
      Ending e room s (before ++ [line]) rest [] (some (.unprintable message))

/-- Only a stack that overflows and a text that cannot be printed end it with a fault. -/
theorem Ending.fault {e : Encoding} {room : Room} {s : Shell} {taken rest closing : List String}
    {f : Fault} (h : Ending e room s taken rest closing (some f)) :
    Stack.Spills room f ∨ ∃ text message, e.refusal? text = some message ∧
      f = .unprintable message := by
  cases h with
  | unprompted ha hx hp => exact .inr ⟨_, _, hp, rfl⟩
  | overflowed ha hp he ho => exact .inl ho
  | unprinted ha hp he hr => exact .inr ⟨_, _, hr, rfl⟩

section Execution

variable {e : Encoding} {room : Room} {line : String} {lines taken rest closing : List String}
  {s : Shell} {P : String → Shell → Prop} {fault : Option Fault}

theorem atEach_nil : AtEach room P [] s := by
  intro before line after h
  cases before <;> contradiction

theorem AtEach.cons (h : P line s)
    (hl : AtEach room P lines (Stack.execute room (some line) s).2) :
    AtEach room P (line :: lines) s := by
  intro before line' after he
  cases before with
  | nil =>
      cases he
      exact h
  | cons first before =>
      obtain ⟨rfl, ht⟩ := List.cons.inj he
      exact hl before line' after ht

theorem Ending.cons (ha : Answers e room line s)
    (h : Ending e room (Stack.execute room (some line) s).2 taken rest closing fault) :
    Ending e room s (line :: taken) rest closing fault := by
  cases h with
  | left hs hx => exact .left (hs.cons ha) hx
  | exhausted hs hx hp => exact .exhausted (hs.cons ha) hx hp
  | unprompted hs hx hp => exact .unprompted (hs.cons ha) hx hp
  | overflowed hs hp he ho => exact .overflowed (hs.cons ha) hp he ho
  | unprinted hs hp he hr => exact .unprinted (hs.cons ha) hp he hr

/-- The fault that a line leaves, if there is one. -/
def faultOf? (e : Encoding) : Except Fault (Option String) → Option Fault
  | .error f => some f
  | .ok none => none
  | .ok (some text) => (e.refusal? text).map .unprintable

/-- What is printed of a line, and what is raised. -/
theorem respondOnStack_eq (hs : s.registry = Builtin.registry) :
    respondOnStack e room line s =
      (shown e (room.above ownLevels) line s,
        faultOf? e (Stack.execute (room.above ownLevels) (some line) s).1,
        (Stack.execute (room.above ownLevels) (some line) s).2) := by
  have hc : Stack.Cleared
      ((Stack.Request.execute (some line)).trace (room.above ownLevels) s) s.session
      (Stack.execute (room.above ownLevels) (some line) s).2.session := Stack.execute_cleared hs
  rw [Stack.Cleared] at hc
  rw [respondOnStack, shown]
  cases he : Stack.execute (room.above ownLevels) (some line) s with
  | mk o s' =>
      have hn : s'.session.clears = s.session.clears + _ := he ▸ hc
      rcases o with f | _ | text
      · simp only [printed, hn, Nat.add_sub_cancel_left]
        rfl
      · simp only [printed, hn, Nat.add_sub_cancel_left]
        rfl
      · cases hr : e.refusal? text with
        | none => simp only [printed, hn, Nat.add_sub_cancel_left, hr, faultOf?]; rfl
        | some message => simp only [printed, hn, Nat.add_sub_cancel_left, hr, faultOf?]; rfl

theorem converseOnStack_left (h : s.session.exitRequested = true) :
    converseOnStack e room lines s = ([], none, s) := by
  rw [converseOnStack.eq_def]
  dsimp only
  rw [if_pos h]

theorem converseOnStack_unprompted {message : String} (h : s.session.exitRequested = false)
    (hp : e.refusal? (prompt s) = some message) :
    converseOnStack e room lines s = ([], some (.unprintable message), s) := by
  rw [converseOnStack.eq_def]
  dsimp only
  rw [if_neg (by simp [h]), hp]

theorem converseOnStack_nil (h : s.session.exitRequested = false)
    (hp : e.refusal? (prompt s) = none) :
    converseOnStack e room [] s = ([prompt s, "\n"], none, s) := by
  rw [converseOnStack.eq_def]
  dsimp only
  rw [if_neg (by simp [h]), hp]

theorem converseOnStack_cons (hs : s.registry = Builtin.registry)
    (h : s.session.exitRequested = false) (hp : e.refusal? (prompt s) = none) :
    converseOnStack e room (line :: lines) s =
      match faultOf? e (Stack.execute (room.above ownLevels) (some line) s).1 with
      | some f =>
          ([prompt s, shown e (room.above ownLevels) line s], some f,
            (Stack.execute (room.above ownLevels) (some line) s).2)
      | none =>
          let (pieces, f, s') :=
            converseOnStack e room lines (Stack.execute (room.above ownLevels) (some line) s).2
          (prompt s :: shown e (room.above ownLevels) line s :: pieces, f, s') := by
  rw [converseOnStack.eq_def]
  dsimp only
  rw [if_neg (by simp [h]), hp]
  simp only [respondOnStack_eq hs]
  cases faultOf? e (Stack.execute (room.above ownLevels) (some line) s).1 <;> rfl

/-- A line without a fault is answered, and one with a fault ends the conversation. -/
theorem answers_or_ends (e : Encoding) (room : Room) (line : String) (rest : List String)
    (hs : Stack.Among Builtin.registry Session.Writable s) (hp : e.refusal? (prompt s) = none) :
    faultOf? e (Stack.execute room (some line) s).1 = none ∧ Answers e room line s ∨
      ∃ f, faultOf? e (Stack.execute room (some line) s).1 = some f ∧
        Ending e room s [line] rest [] (some f) := by
  cases he : (Stack.execute room (some line) s).1 with
  | error f =>
      have hend : Ending e room s ([] ++ [line]) rest [] (some f) :=
        .overflowed atEach_nil hp he (Stack.execute_spills hs he)
      exact .inr ⟨f, rfl, hend⟩
  | ok out =>
      cases out with
      | none => exact .inl ⟨rfl, hp, none, he, nofun⟩
      | some text =>
          cases hr : e.refusal? text with
          | none =>
              refine .inl ⟨by rw [faultOf?, hr]; rfl, hp, some text, he, ?_⟩
              rintro _ ⟨⟩
              exact hr
          | some message =>
              have hend : Ending e room s ([] ++ [line]) rest [] (some (.unprintable message)) :=
                .unprinted atEach_nil hp he hr
              exact .inr ⟨.unprintable message, by rw [faultOf?, hr]; rfl, hend⟩

/-- A conversation ends before a line where something has asked to leave or the prompt is refused. -/
theorem ends_or_prompts (e : Encoding) (room : Room) (lines : List String) (s : Shell) :
    (∃ fault, Ending e (room.above ownLevels) s [] lines [] fault ∧
        converseOnStack e room lines s = ([], fault, s)) ∨
      s.session.exitRequested = false ∧ e.refusal? (prompt s) = none := by
  cases hx : s.session.exitRequested with
  | true => exact .inl ⟨none, .left atEach_nil hx, converseOnStack_left hx⟩
  | false =>
      cases hp : e.refusal? (prompt s) with
      | some message =>
          exact .inl ⟨_, .unprompted atEach_nil hx hp, converseOnStack_unprompted hx hp⟩
      | none => exact .inr ⟨rfl, rfl⟩

/-- A conversation takes one line after the other, and ends in one of these ways. -/
theorem converseOnStack_ending (e : Encoding) (room : Room) (lines : List String)
    (hs : Stack.Among Builtin.registry Session.Writable s) :
    ∃ taken rest closing fault, lines = taken ++ rest ∧
      AtEach (room.above ownLevels) Stays taken s ∧
      Ending e (room.above ownLevels) s taken rest closing fault ∧
      converseOnStack e room lines s =
        (answers e (room.above ownLevels) taken s ++ closing, fault,
          executed (room.above ownLevels) taken s) := by
  induction lines generalizing s with
  | nil =>
      rcases ends_or_prompts e room [] s with ⟨fault, hend, heq⟩ | ⟨hx, hp⟩
      · exact ⟨[], [], [], fault, rfl, atEach_nil, hend, heq⟩
      · exact ⟨[], [], _, none, rfl, atEach_nil, .exhausted atEach_nil hx hp,
          converseOnStack_nil hx hp⟩
  | cons line lines ih =>
      rcases ends_or_prompts e room (line :: lines) s with ⟨fault, hend, heq⟩ | ⟨hx, hp⟩
      · exact ⟨[], _, [], fault, rfl, atEach_nil, hend, heq⟩
      · rw [converseOnStack_cons hs.registry_eq hx hp]
        rcases answers_or_ends e (room.above ownLevels) line lines hs hp with
          ⟨hf, ha⟩ | ⟨f, hf, hend⟩
        · have hn : Stack.Among Builtin.registry Session.Writable
              (Stack.execute (room.above ownLevels) (some line) s).2 :=
            Builtin.among_served hs [(room.above ownLevels, .execute (some line))]
          obtain ⟨taken, rest, closing, fault, rfl, hstay, hend, heq⟩ := ih hn
          refine ⟨line :: taken, rest, closing, fault, rfl, hstay.cons hx, hend.cons ha, ?_⟩
          rw [hf]
          dsimp only
          rw [heq]
          rfl
        · refine ⟨[line], lines, [], some f, rfl, atEach_nil.cons hx, hend, ?_⟩
          rw [hf]
          rfl

end Execution

/-! ## From the settings on -/

/-- Without a log the console executes its input line by line, until a command asks to leave, the
stack overflows or printing fails. -/
theorem transcript_executed (e : Encoding) {w : Surroundings} {c : Settings} {s : Shell}
    (hc : Settings.load (w.room.above ownLevels) w.disk Settings.defaultPath = .ok c)
    (hfile : c.get? "log_file" = none) (hlevel : c.get? "log_level" = none)
    (hs : Shell.ofSettings c true (w.above ownLevels) = .ok s) :
    let room := w.room.above ownLevels
    open_ w = (.ok s, w) ∧
    ∀ input, AreLines input (linesOf input) ∧
      ∃ taken rest closing fault, linesOf input = taken ++ rest ∧
        AtEach room Stays taken s ∧ Ending e room s taken rest closing fault ∧
        (w.room = none → (∀ text, e.refusal? text = none) → fault = none) ∧
        transcriptOnStack e w.room input s =
          (String.join (banner :: (answers e room taken s ++ closing)), fault,
            executed room taken s) := by
  intro room
  have hp : prepareLog c w.disk = .ok w.disk := by
    rw [prepareLog, Settings.logFile, hfile]
    rfl
  have hl : c.checkLevel = .ok () := by
    rw [Settings.checkLevel, hlevel]
  refine ⟨?_, fun input => ⟨areLines_linesOf input, ?_⟩⟩
  · rw [open_, hc]
    simp only [hl, hp]
    rw [hs]
  · obtain ⟨taken, rest, closing, fault, hlines, hstay, hend, heq⟩ :=
      converseOnStack_ending e w.room (linesOf input) (Builtin.among_of_settings hs)
    refine ⟨taken, rest, closing, fault, hlines, hstay, hend, fun hr he => ?_, ?_⟩
    · cases fault with
      | none => rfl
      | some f =>
          rw [hr, Room.above_none] at hend
          obtain ho | ⟨text, message, hm, -⟩ := hend.fault
          · exact absurd ho Stack.not_spills_none
          · exact absurd ((he text).symm.trans hm) nofun
    · rw [transcriptOnStack, heq]

/-- An output that takes every text. -/
def anyText : Encoding :=
  ⟨fun _ => none, fun _ _ => rfl⟩

/-- Where there are no settings, a conversation on a stack without bounds. -/
theorem transcript_executed_empty :
    ∃ s, Settings.load (Surroundings.empty.room.above ownLevels) Surroundings.empty.disk
        Settings.defaultPath = .ok OrderedMap.empty ∧
      Shell.ofSettings OrderedMap.empty true (Surroundings.empty.above ownLevels) = .ok s ∧
      open_ .empty = (.ok s, .empty) ∧
      ∃ taken rest, ["exit", "print 1"] = taken ++ rest ∧
        (transcriptOnStack anyText none "exit\nprint 1" s).2 = (none, executed none taken s) := by
  obtain ⟨s, hs⟩ : ∃ s,
      Shell.ofSettings OrderedMap.empty true (Surroundings.empty.above ownLevels) = .ok s :=
    ⟨_, rfl⟩
  have hl : linesOf "exit\nprint 1" = ["exit", "print 1"] := rfl
  have hc : Settings.load (Surroundings.empty.room.above ownLevels) Surroundings.empty.disk
      Settings.defaultPath = .ok OrderedMap.empty := rfl
  obtain ⟨ho, ht⟩ := transcript_executed anyText hc rfl rfl hs
  obtain ⟨-, taken, rest, closing, fault, hlines, -, -, hf, heq⟩ := ht "exit\nprint 1"
  refine ⟨s, hc, hs, ho, taken, rest, hl ▸ hlines, ?_⟩
  have hn : fault = none := hf rfl fun _ => rfl
  subst hn
  exact congrArg Prod.snd heq

/-! ## Lines that end in a fault -/

/-- Settings with a limit that lies beyond the stack. -/
def highLimit : Settings :=
  OrderedMap.ofList [("max_depth", .int 100000)]

/-- Two aliases that stand for each other. -/
def cycle : Alias.Entries :=
  OrderedMap.ofList [("alias_a", .str "b"), ("alias_b", .str "a")]

/-- The text of some entries in their file. -/
def fileText (entries : OrderedMap String Json) : String :=
  String.ofList (Json.Writer.value .indented 0 (.obj entries.entries))

/-- A disk with these settings and these aliases, and as much room as a console has. -/
def cyclic : Surroundings :=
  { Surroundings.empty with
    disk := (Disk.empty.install ["config", "core.json"]
        (.file (Text.bytes (fileText highLimit)) false)).install ["console_cache.json"]
          (.file (Text.bytes (fileText cycle)) false)
    room := some 994 }

def cyclicStore : Store :=
  ⟨cycle, some (Path.ofString Settings.defaultStoreFile)⟩

theorem portable_highLimit : Json.Portable (.obj highLimit.entries) := by
  refine ⟨by decide, .of_all (by decide), ?_, trivial⟩
  show (Nat.toDigits 10 100000).length ≤ Json.maxDigits
  decide

theorem portable_cycle : Json.Portable (.obj cycle.entries) :=
  ⟨by decide, .of_all (by decide), .of_all (by decide), .of_all (by decide),
    .of_all (by decide), trivial⟩

theorem serialize_of_writable {entries : OrderedMap String Json}
    (h : (Json.obj entries.entries).isWritable = true) :
    Store.serialize entries = .ok (fileText entries) :=
  if_pos h

theorem load_cyclic :
    Settings.load (cyclic.room.above ownLevels) cyclic.disk Settings.defaultPath =
      .ok highLimit := by
  have he : cyclic.disk.exists? Settings.defaultPath = .ok true := rfl
  have hf : Json.Reader.Fits (.ofRoom ((cyclic.room.above ownLevels).above Settings.loadingLevels))
      (Json.obj highLimit.entries).depth := by
    intro b hb
    cases hb
    decide
  rw [Settings.load, he]
  exact Store.load_serialized (serialize_of_writable (by decide)) rfl (by decide)
    portable_highLimit hf

theorem open_cyclic :
    let w := (cyclic.above ownLevels).above Shell.startingLevels
    Store.open_ w.room w.disk (some (Path.ofString Settings.defaultStoreFile)) =
      .ok cyclicStore := by
  refine Store.open_of_mirrored ⟨rfl, rfl, _, serialize_of_writable rfl, rfl, by decide⟩
    portable_cycle ?_
  intro levels hl
  cases hl
  decide

theorem endless_cycle : Alias.Endless cycle "a" := by
  have ha : Alias.Hop cycle "a" [] "b" := ⟨by decide, by decide, by decide, by decide⟩
  have hb : Alias.Hop cycle "b" [] "a" := ⟨by decide, by decide, by decide, by decide⟩
  exact Alias.endless_of_pair ha hb

theorem start_cyclic :
    ∃ s, Shell.ofSettings highLimit true (cyclic.above ownLevels) = .ok s ∧
      s.session.store.entries = cycle ∧ s.maxDepth = 100000 ∧ s.isFull = false ∧
      s.session.exitRequested = false ∧ prompt s = "/> " := by
  have hs : highLimit.storeFile = .ok (some (Path.ofString Settings.defaultStoreFile)) := rfl
  have hm : highLimit.maxDepth = .ok 100000 := rfl
  rw [Shell.ofSettings, hm, hs]
  dsimp only
  rw [Shell.start]
  simp only [open_cyclic]
  exact ⟨_, rfl, rfl, rfl, rfl, rfl, rfl⟩

/-- A directory whose name holds a byte that is no text. -/
def unnameable : Surroundings :=
  let start := [String.ofList (Text.Code.hold 0xDCFF)]
  { Surroundings.empty with disk := { Disk.empty.install start .directory with start } }

/-- A line may overflow the stack, and those after it are not executed then. Where the prompt cannot
be printed, none is executed. -/
theorem transcript_overflown :
    (∃ c s f, Settings.load (cyclic.room.above ownLevels) cyclic.disk Settings.defaultPath = .ok c ∧
      c.get? "log_file" = none ∧ c.get? "log_level" = none ∧
      Shell.ofSettings c true (cyclic.above ownLevels) = .ok s ∧
      linesOf "a\nprint 1\n" = ["a", "print 1"] ∧
      (transcriptOnStack .utf8 cyclic.room "a\nprint 1\n" s).2 =
        (some f, executed (cyclic.room.above ownLevels) ["a"] s)) ∧
    ∃ s message, Shell.ofSettings OrderedMap.empty true (unnameable.above ownLevels) = .ok s ∧
      transcriptOnStack .utf8 none "print 1\n" s =
        (banner, some (.unprintable message), s) := by
  constructor
  · obtain ⟨s, hs, he, hm, hf, hx, hprompt⟩ := start_cyclic
    have hw : Syntax.tokenize "a" = ["a"] := by decide
    obtain ⟨o, ho⟩ :
        Stack.Overflows (Stack.execute (cyclic.room.above ownLevels) (some "a") s).1 :=
      Stack.execute_overflows hf (by decide) (by decide) (by decide) hw (he ▸ endless_cycle)
        (by rw [hm]; decide)
    have hl : linesOf "a\nprint 1\n" = ["a", "print 1"] := rfl
    have hp : Encoding.utf8.refusal? (prompt s) = none := by
      rw [hprompt]
      exact Encoding.utf8.takesAscii _ (by decide)
    refine ⟨_, s, .overflow o, load_cyclic, rfl, rfl, hs, hl, ?_⟩
    rw [transcriptOnStack, hl, converseOnStack_cons (Builtin.registry_of_settings hs) hx hp, ho]
    rfl
  · obtain ⟨s, message, hs, hx, hp⟩ : ∃ s message,
        Shell.ofSettings OrderedMap.empty true (unnameable.above ownLevels) = .ok s ∧
          s.session.exitRequested = false ∧
          Encoding.utf8.refusal? (prompt s) = some message := ⟨_, _, rfl, rfl, rfl⟩
    refine ⟨s, message, hs, ?_⟩
    rw [transcriptOnStack, converseOnStack_unprompted hx hp]
    rfl

end Console

end CommandShell
