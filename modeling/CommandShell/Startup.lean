import CommandShell.Builtin.Table
import CommandShell.Settings

/-! Interpreters as they start: with every built-in command, or with none. -/

namespace CommandShell

/-- What an interpreter finds around it. -/
structure Surroundings where
  disk : Disk
  environment : OrderedMap String String
  accounts : Accounts
  exchange : Chat.Exchange Float
  /-- How much room there is above whoever starts an interpreter. -/
  room : Room

/-- The surroundings some levels further up. -/
def Surroundings.above (w : Surroundings) (levels : Nat) : Surroundings :=
  { w with room := w.room.above levels }

/-- Surroundings with nothing on the disk, no homes and nobody to talk to, on a stack without
bounds. -/
def Surroundings.empty : Surroundings where
  disk := ⟨OrderedMap.empty, [], 0⟩
  environment := OrderedMap.empty
  accounts := ⟨none, fun _ => none⟩
  exchange := .inTurn [] 0.0
  room := none

/-- The surroundings that a session leaves behind. -/
def Session.surroundings (s : Session) (r : Room) : Surroundings :=
  ⟨s.disk, s.environment, s.accounts, s.exchange, r⟩

/-- The directory where relative paths begin. -/
def Disk.startPath (d : Disk) : Except FileFault Path :=
  if d.lost = 0 then .ok ⟨.slash, d.start⟩ else .error (.system .noEntry none)

namespace Shell

/-- Starts with some commands, a bound on nesting and a file for the store. -/
def start (registry : Registry) (maxDepth : Int) (file : Option Path) (announcesClear : Bool)
    (w : Surroundings) : Except Fault Shell :=
  match Store.open_ w.room w.disk file, w.disk.startPath with
  | .error f, _ | _, .error f => .error (.file f)
  | .ok store, .ok cwd =>
      .ok
        { session :=
            { vars := OrderedMap.empty, store, cwd, exitRequested := false, clears := 0,
              calls := [], client := none, disk := w.disk, environment := w.environment,
              accounts := w.accounts, exchange := w.exchange }
          registry, depth := 0, expanding := false, maxDepth, maxPasses := defaultMaxPasses,
          announcesClear }

/-- What starts in empty surroundings with a store in memory. -/
def bare (registry : Registry) (maxDepth : Int) : Shell :=
  { session :=
      { vars := OrderedMap.empty, store := ⟨OrderedMap.empty, none⟩, cwd := ⟨.slash, []⟩,
        exitRequested := false, clears := 0, calls := [], client := none,
        disk := Surroundings.empty.disk, environment := OrderedMap.empty,
        accounts := Surroundings.empty.accounts, exchange := Surroundings.empty.exchange }
    registry, depth := 0, expanding := false, maxDepth, maxPasses := defaultMaxPasses,
    announcesClear := false }

theorem start_empty (registry : Registry) (maxDepth : Int) :
    start registry maxDepth none false .empty = .ok (bare registry maxDepth) :=
  rfl

/-- The levels that starting from settings takes by itself. -/
def startingLevels : Nat := 1

/-- Starts with the built-in commands, as the settings say. -/
def ofSettings (c : Settings) (announcesClear : Bool) (w : Surroundings) : Except Fault Shell :=
  match c.maxDepth, c.storeFile with
  | .error f, _ | _, .error f => .error f
  | .ok maxDepth, .ok file =>
      start Builtin.registry maxDepth file announcesClear (w.above startingLevels)

/-- Starts with the built-in commands, as the settings in their usual place say. -/
def ofDisk (announcesClear : Bool) (w : Surroundings) : Except Fault Shell :=
  match Settings.load (w.room.above startingLevels) w.disk Settings.defaultPath with
  | .error f => .error (.file f)
  | .ok c => ofSettings c announcesClear w

end Shell

end CommandShell
