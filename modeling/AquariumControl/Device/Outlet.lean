import AquariumControl.Device.Actuator
import AquariumControl.Device.Line

/-!
# Outlets

A mains outlet or relay on a pin.  Some relay boards switch on when the pin is low; then the level
is inverted.
-/

set_option autoImplicit false

namespace AquariumControl

/-- A two-state output on a line, and the state it was last driven to. -/
structure Outlet where
  line : Line
  activeLow : Bool
  on : Bool
deriving DecidableEq

namespace Outlet

/-- Drives the pin to the level that stands for `on`. -/
def drive (o : Outlet) (on : Bool) : Except ActuatorError Unit × Outlet :=
  match o.line.setLevel? (on != o.activeLow) with
  | none => (.error .gpioWriteFailed, o)
  | some line => (.ok (), { o with line := line, on := on })

/-- An outlet on a line, which is driven to "off" at once. -/
def create (line : Line) (activeLow : Bool) : Except ActuatorError Outlet :=
  match drive ⟨line, activeLow, true⟩ false with
  | (.ok (), o) => .ok o
  | (.error e, _) => .error e

instance : Actuator Outlet where
  kind := fun _ => .outlet
  isOn := Outlet.on
  drive := Outlet.drive

end Outlet

end AquariumControl
