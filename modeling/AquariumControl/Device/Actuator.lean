import AquariumControl.Journal
import AquariumControl.Registry
import AquariumControl.Wire

/-!
# Actuators

What can be switched on and off.  `Actuator` is what a driver must provide; `ActuatorSlot` is a
driver in its place in the registry, with a name and the controller that commands it.
-/

set_option autoImplicit false

namespace AquariumControl

/-- The most actuators that can be registered. -/
def actuatorCapacity : Nat := 24

/-- The kinds of actuator a record can describe. -/
inductive ActuatorKind
  | outlet
  | dimmer
  | custom
deriving DecidableEq

/-- The stored form of the kind. -/
def ActuatorKind.tag : ActuatorKind → UInt8
  | .outlet => 1
  | .dimmer => 2
  | .custom => 0xF0

/-- A driver for an output with two states and, for some, a level in between.  A driver that has
no level and nothing to store needs only the first three fields. -/
class Actuator (δ : Type) where
  kind : δ → ActuatorKind
  isOn : δ → Bool
  /-- Commands the output on or off. -/
  drive : δ → Bool → Except ActuatorError Unit × δ
  supportsPwm : δ → Bool := fun _ => false
  /-- Sets the level that "on" means. -/
  setPwm : δ → Binary32 → Except ActuatorError Unit × δ := fun d _ => (.error .pwmUnsupported, d)
  /-- The level at the output. -/
  pwm : δ → Binary32 := fun d => if isOn d then Binary32.one else Binary.zero
  /-- Writes the parameters into a buffer of the given capacity. -/
  save : δ → Nat → Except CodecError Block := fun _ _ => .ok .empty
  /-- Takes parameters from bytes; says how many it used. -/
  load : δ → List UInt8 → Except CodecError (δ × Nat) := fun d _ => .ok (d, 0)

/-- An actuator in the registry. -/
structure ActuatorSlot (δ : Type) where
  name : Name
  /-- The place it was labelled with; none before it is registered. -/
  place : SlotId
  /-- The controller that commands it. -/
  controller : SlotId
  device : δ

/-- All actuators. -/
abbrev Actuators (δ : Type) := Registry (ActuatorSlot δ) actuatorCapacity

/-- No actuators. -/
def Actuators.empty {δ : Type} : Actuators δ := Registry.empty (by decide)

namespace ActuatorSlot

variable {δ : Type}

/-- An actuator that is not registered yet and belongs to no controller. -/
def fresh (name : String) (device : δ) : ActuatorSlot δ :=
  ⟨Name.ofString name, .unassigned, .unassigned, device⟩

def label (s : ActuatorSlot δ) : Label :=
  ⟨.actuator, s.place⟩

variable [Actuator δ]

def kind (s : ActuatorSlot δ) : ActuatorKind :=
  Actuator.kind s.device

def isOn (s : ActuatorSlot δ) : Bool :=
  Actuator.isOn s.device

/-- Commands the output if it is not in the wanted state already; answers whether it changed. -/
def switch (s : ActuatorSlot δ) (on : Bool) :
    Outcome (ActuatorSlot δ) (Except ActuatorError Bool) :=
  if s.isOn = on then
    ⟨.ok false, s, []⟩
  else
    match Actuator.drive s.device on with
    | (.ok (), d) => ⟨.ok true, { s with device := d }, [.notice (.switched s.label s.name on)]⟩
    | (.error e, d) => ⟨.error e, { s with device := d }, []⟩

def setPwm (s : ActuatorSlot δ) (duty : Binary32) : Except ActuatorError Unit × ActuatorSlot δ :=
  let (answer, d) := Actuator.setPwm s.device duty
  (answer, { s with device := d })

end ActuatorSlot

end AquariumControl
