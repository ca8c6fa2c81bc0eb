import AquariumControl.Device.Actuator

/-!
# Assignment

Which actuators belong to which controller.  The only record of it is the `controller` of each
actuator; `assigned` collects the actuators of one controller, in ascending order of their places.
No actuator belongs to "no controller", not even those that have none.
-/

set_option autoImplicit false

namespace AquariumControl

namespace Actuators

variable {δ : Type}

/-- The actuators assigned to a controller. -/
def assigned (actuators : Actuators δ) (controller : SlotId) : List (SlotId × ActuatorSlot δ) :=
  (Registry.entries actuators).filter fun e =>
    controller.isAssigned && e.2.controller == controller

/-- The places of the actuators assigned to a controller. -/
def assignedIds (actuators : Actuators δ) (controller : SlotId) : List SlotId :=
  (assigned actuators controller).map Prod.fst

end Actuators

/-- Writes items over the front of `out`, as many as it has room for, and counts all of them. -/
def fill {α : Type} (items out : List α) : Nat × List α :=
  (items.length, items.take out.length ++ out.drop items.length)

end AquariumControl
