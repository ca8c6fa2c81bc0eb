import AquariumControl.Device.Actuator

/-!
# Bench relays

A relay without a pin behind it: a two-state output that can be told to refuse commands.  It has
no levels and stores nothing.
-/

set_option autoImplicit false

namespace AquariumControl

/-- Which commands a relay refuses. -/
inductive FailureMode
  | none
  | on
  | off
  | both
deriving DecidableEq

def FailureMode.refuses : FailureMode → Bool → Bool
  | .none, _ => false
  | .on, command => command
  | .off, command => !command
  | .both, _ => true

/-- A relay: its state, and the commands it refuses. -/
structure Relay where
  on : Bool
  failure : FailureMode
deriving DecidableEq

namespace Relay

/-- A relay that is off and works. -/
def idle : Relay := ⟨false, .none⟩

/-- A command that is refused changes nothing. -/
def drive (r : Relay) (on : Bool) : Except ActuatorError Unit × Relay :=
  if r.failure.refuses on then (.error .gpioWriteFailed, r) else (.ok (), { r with on := on })

instance : Actuator Relay where
  kind := fun _ => .custom
  isOn := Relay.on
  drive := Relay.drive

end Relay

end AquariumControl
