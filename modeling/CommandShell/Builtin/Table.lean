import CommandShell.Builtin.Ask
import CommandShell.Builtin.Browse
import CommandShell.Builtin.Control
import CommandShell.Builtin.Env
import CommandShell.Builtin.File
import CommandShell.Builtin.Help
import CommandShell.Builtin.Launch
import CommandShell.Builtin.Pure
import CommandShell.Builtin.Script
import CommandShell.Builtin.Stored
import CommandShell.Builtin.Var

/-! The commands that every full interpreter starts with. -/

namespace CommandShell.Builtin

def all : List Command :=
  [print, var, shorthand, cache, calculate, clear, exit, env, help, cd, ls, mkdir, touch, read,
    write, rm, open_, script, ask]

def registry : Registry :=
  all.foldl Registry.register Registry.empty

end CommandShell.Builtin
