/-!
# Hardware lines

A `Line` stands for one pin of the board, seen either as a level or as a duty cycle.  While it is
failing, reading and writing it both fail and change nothing.
-/

set_option autoImplicit false

namespace AquariumControl

/-- A pin: its level, its duty cycle out of `maxDuty`, and how often it was written. -/
structure Line where
  high : Bool
  duty : UInt16
  maxDuty : UInt16
  failing : Bool
  writes : Nat
deriving DecidableEq

namespace Line

/-- The level, unless the line fails. -/
def level? (l : Line) : Option Bool :=
  if l.failing then none else some l.high

/-- Drives the level, unless the line fails. -/
def setLevel? (l : Line) (high : Bool) : Option Line :=
  if l.failing then none else some { l with high := high, writes := l.writes + 1 }

/-- Drives the duty cycle, unless the line fails. -/
def setDuty? (l : Line) (duty : UInt16) : Option Line :=
  if l.failing then none else some { l with duty := duty, writes := l.writes + 1 }

end Line

end AquariumControl
