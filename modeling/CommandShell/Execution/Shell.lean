import CommandShell.Command.Registry

/-! The state of an interpreter: its session, its commands and its bounds. -/

namespace CommandShell

structure Shell where
  session : Session
  registry : Registry
  /-- How many lines and substitutions are being run inside one another. -/
  depth : Nat
  /-- Whether substitutions are being expanded, during which lines are not searched for more. -/
  expanding : Bool
  maxDepth : Int
  maxPasses : Int
  /-- Whether the host wants to know when the screen is cleared. -/
  announcesClear : Bool

namespace Shell

def defaultMaxDepth : Int := 32

def defaultMaxPasses : Int := 1024

/-- How much deeper execution may go. -/
def depthLeft (s : Shell) : Nat :=
  (s.maxDepth - s.depth).toNat

def isFull (s : Shell) : Bool :=
  s.maxDepth ≤ s.depth

def enter (s : Shell) : Shell :=
  { s with depth := s.depth + 1 }

def leave (s : Shell) : Shell :=
  { s with depth := s.depth - 1 }

def isCommand (s : Shell) (name : String) : Bool :=
  (s.registry.find? name).isSome

def register (s : Shell) (c : Command) : Shell :=
  { s with registry := s.registry.register c }

/-- Counts a clearing of the screen, where the host wants to know. -/
def announceClear (s : Shell) : Shell :=
  if s.announcesClear then
    { s with session := { s.session with clears := s.session.clears + 1 } }
  else s

end Shell

end CommandShell
