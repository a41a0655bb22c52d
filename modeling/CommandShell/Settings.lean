import CommandShell.Command.Fault
import CommandShell.Execution.Shell
import CommandShell.Store
import CommandShell.Text.Capital

/-! Settings of the interpreter, read from a file. -/

namespace CommandShell

abbrev Settings := OrderedMap String Json

namespace Settings

def defaultPath : Path :=
  Path.ofString "config/core.json"

/-- The levels between the caller that reads settings and the reading of their file. -/
def loadingLevels : Nat := 1

/-- Reads settings. A file that is missing, cannot be read or holds no object sets nothing. -/
def load (r : Room) (d : Disk) (p : Path) : Except FileFault Settings :=
  match d.exists? p with
  | .error f => .error f
  | .ok false => .ok OrderedMap.empty
  | .ok true => Store.load (.ofRoom (r.above loadingLevels)) d p

/-- The bound on nesting, at least one. A setting that is no number is passed over. -/
def maxDepth (c : Settings) : Except Fault Int :=
  match c.get? "max_depth" with
  | none => .ok Shell.defaultMaxDepth
  | some v =>
      match v.whole with
      | .ok n => .ok (max 1 n)
      | .error .infinite => .error (.number .infinite)
      | .error _ => .ok Shell.defaultMaxDepth

def defaultStoreFile : String := "console_cache.json"

/-- The file that a setting names; a setting that counts as absent names none. -/
def fileOf (v : Json) : Except Fault (Option Path) :=
  if v.isTruthy then
    match v with
    | .str s => .ok (some (Path.ofString s))
    | v => .error (.notPath v.kindName)
  else .ok none

/-- The file behind the store. -/
def storeFile (c : Settings) : Except Fault (Option Path) :=
  fileOf ((c.get? "cache_file").getD (.str defaultStoreFile))

/-- The file that is kept for the log. -/
def logFile (c : Settings) : Except Fault (Option Path) :=
  fileOf ((c.get? "log_file").getD .null)

/-! ## The level of the log

A level is looked up among the names in capitals that the log has. A name that it does not have
changes nothing, but two are those of something else. -/

/-- The name of the text that messages are laid out by, which is no level. -/
def layoutName : String := "BASIC_FORMAT"

def layout : String := "%(levelname)s:%(name)s:%(message)s"

/-- The name of the table of layouts, which is not even the name of a level. -/
def layoutTableName : String := "_STYLES"

/-- Whether the log takes the level that is set. -/
def checkLevel (c : Settings) : Except Fault Unit :=
  match c.get? "log_level" with
  | none => .ok ()
  | some v =>
      match v.display with
      | .error f => .error (.json f)
      | .ok name =>
          if Text.isInCapitals name layoutName then .error (.unknownLevel layout)
          else if Text.isInCapitals name layoutTableName then .error .noLevel
          else .ok ()

end Settings

end CommandShell
