/-! The bounds that keep execution finite, as they are reported when they are reached. -/

namespace CommandShell

inductive Limit
  | nesting (maxDepth : Int)
  | aliases (maxDepth : Int)
  | substitution (maxPasses : Int)
  deriving DecidableEq, Repr

def Limit.message : Limit → String
  | nesting n => s!"Nesting depth exceeded (max_depth={n})"
  | aliases n => s!"Alias expansion depth exceeded (max_depth={n})"
  | substitution n => s!"Substitution passes exceeded (max_passes={n})"

end CommandShell
