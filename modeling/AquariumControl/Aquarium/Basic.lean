import AquariumControl.Rule.Command
import AquariumControl.Telemetry

/-!
# The aquarium

Everything that is registered, and what is kept between two control cycles: the latest readings,
the samples that wait for the uplink, and the number of cycles so far.

An actuator may be assigned to a controller that is registered, or to none.  Removing a controller
takes its actuators away from it, so that a later occupant of its place starts with none.
-/

set_option autoImplicit false

namespace AquariumControl

/-- An aquarium with rules of type `ρ`, output drivers of type `δ` and sensor drivers of type
`σ`. -/
structure Aquarium (ρ δ σ : Type) where
  controllers : Controllers ρ
  actuators : Actuators δ
  sensors : Sensors σ
  readings : Readings
  /-- Samples that wait for the uplink, the oldest first. -/
  telemetry : List Sample
  /-- How many control cycles have been run, modulo `2 ^ 64`. -/
  cycles : UInt64

namespace Aquarium

variable {ρ δ σ : Type}

/-- An aquarium with nothing in it. -/
def empty : Aquarium ρ δ σ where
  controllers := Controllers.empty
  actuators := Actuators.empty
  sensors := Sensors.empty
  readings := Readings.empty
  telemetry := []
  cycles := 0

/-! ## Registration -/

/-- What is reported of an object that found its place. -/
def admitted (label : Label) (name : String) : Journal :=
  [.notice (.slotOccupied label.id), .notice (.registered label (Name.ofString name))]

/-- What is reported of an object that found no place. -/
def refused (tag : Tag) (name : String) : Journal :=
  [.notice (.registryFull tag name), .event (.capacityExhausted tag (Name.ofString name))]

/-- What is reported of an object that gave up its place. -/
def departed (id : SlotId) (label : Label) (name : Name) : Journal :=
  [.notice (.slotFreed id), .notice (.removed label name)]

/-- Registers a rule; the answer is the place it was given, if there was one. -/
def addController (a : Aquarium ρ δ σ) (name : String) (rule : ρ) :
    Outcome (Aquarium ρ δ σ) (Option SlotId) :=
  match a.controllers.addWith fun id => ⟨Name.ofString name, id, rule⟩ with
  | none => ⟨none, a, refused .controller name⟩
  | some (id, controllers) =>
    ⟨some id, { a with controllers := controllers }, admitted ⟨.controller, id⟩ name⟩

/-- Registers an output driver, which no controller commands yet. -/
def addActuator (a : Aquarium ρ δ σ) (name : String) (device : δ) :
    Outcome (Aquarium ρ δ σ) (Option SlotId) :=
  match a.actuators.addWith fun id => ⟨Name.ofString name, id, .unassigned, device⟩ with
  | none => ⟨none, a, refused .actuator name⟩
  | some (id, actuators) =>
    ⟨some id, { a with actuators := actuators }, admitted ⟨.actuator, id⟩ name⟩

/-- Registers a sensor driver. -/
def addSensor (a : Aquarium ρ δ σ) (name : String) (device : σ) :
    Outcome (Aquarium ρ δ σ) (Option SlotId) :=
  match a.sensors.addWith fun id => ⟨Name.ofString name, id, device⟩ with
  | none => ⟨none, a, refused .sensor name⟩
  | some (id, sensors) => ⟨some id, { a with sensors := sensors }, admitted ⟨.sensor, id⟩ name⟩

/-- Puts a controller into the registry as it is, without giving it a label. -/
def placeController (a : Aquarium ρ δ σ) (slot : ControllerSlot ρ) :
    Outcome (Aquarium ρ δ σ) (Option SlotId) :=
  match a.controllers.add slot with
  | none => ⟨none, a, []⟩
  | some (id, controllers) =>
    ⟨some id, { a with controllers := controllers }, [.notice (.slotOccupied id)]⟩

/-- Puts an actuator into the registry as it is, without giving it a label. -/
def placeActuator (a : Aquarium ρ δ σ) (slot : ActuatorSlot δ) :
    Outcome (Aquarium ρ δ σ) (Option SlotId) :=
  match a.actuators.add slot with
  | none => ⟨none, a, []⟩
  | some (id, actuators) =>
    ⟨some id, { a with actuators := actuators }, [.notice (.slotOccupied id)]⟩

/-- Puts a sensor into the registry as it is, without giving it a label. -/
def placeSensor (a : Aquarium ρ δ σ) (slot : SensorSlot σ) :
    Outcome (Aquarium ρ δ σ) (Option SlotId) :=
  match a.sensors.add slot with
  | none => ⟨none, a, []⟩
  | some (id, sensors) =>
    ⟨some id, { a with sensors := sensors }, [.notice (.slotOccupied id)]⟩

/-- Removes a controller and takes its actuators away from it. -/
def removeController (a : Aquarium ρ δ σ) (id : SlotId) :
    Outcome (Aquarium ρ δ σ) (Option (ControllerSlot ρ)) :=
  match a.controllers.remove id with
  | none => ⟨none, a, []⟩
  | some (slot, controllers) =>
    let orphan (s : ActuatorSlot δ) : ActuatorSlot δ :=
      if s.controller = id then { s with controller := .unassigned } else s
    ⟨some slot, { a with controllers := controllers, actuators := a.actuators.map orphan },
      departed id slot.label slot.name⟩

/-- Removes an actuator. -/
def removeActuator (a : Aquarium ρ δ σ) (id : SlotId) :
    Outcome (Aquarium ρ δ σ) (Option (ActuatorSlot δ)) :=
  match a.actuators.remove id with
  | none => ⟨none, a, []⟩
  | some (slot, actuators) =>
    ⟨some slot, { a with actuators := actuators }, departed id slot.label slot.name⟩

/-- Removes a sensor and forgets its reading. -/
def removeSensor (a : Aquarium ρ δ σ) (id : SlotId) :
    Outcome (Aquarium ρ δ σ) (Option (SensorSlot σ)) :=
  match a.sensors.remove id with
  | none => ⟨none, a, []⟩
  | some (slot, sensors) =>
    ⟨some slot, { a with sensors := sensors, readings := a.readings.clear id },
      departed id slot.label slot.name⟩

/-! ## Assignment -/

/-- Assigns an actuator to a controller, or to none.  Both must be registered. -/
def assignActuator (a : Aquarium ρ δ σ) (actuator controller : SlotId) :
    Except RegistryError (Aquarium ρ δ σ) :=
  if controller.isAssigned && !a.controllers.contains controller then
    .error .notFound
  else if a.actuators.contains actuator then
    .ok { a with
      actuators := a.actuators.modify actuator fun s => { s with controller := controller } }
  else
    .error .notFound

/-- The actuators assigned to a controller object, which has none if it is not registered
here. -/
def assignedTo (a : Aquarium ρ δ σ) (controller : Registry.Holding) :
    List (SlotId × ActuatorSlot δ) :=
  match a.controllers.find? controller with
  | none => []
  | some id => a.actuators.assigned id

/-- The places of the actuators assigned to the controller in a place. -/
def assignedIds (a : Aquarium ρ δ σ) (controller : SlotId) : List SlotId :=
  if a.controllers.contains controller then a.actuators.assignedIds controller else []

/-- The registered controller that an actuator is assigned to. -/
def controllerOf (a : Aquarium ρ δ σ) (actuator : SlotId) : Option SlotId :=
  match a.actuators.get? actuator with
  | none => none
  | some slot => if a.controllers.contains slot.controller then some slot.controller else none

/-! ## Readings and samples -/

/-- The latest good value of a sensor. -/
def sensorValue (a : Aquarium ρ δ σ) (sensor : SlotId) : Option Binary64 :=
  a.readings.get? sensor

/-- Drops the oldest `count` samples. -/
def discardTelemetry (a : Aquarium ρ δ σ) (count : Nat) : Aquarium ρ δ σ :=
  { a with telemetry := a.telemetry.drop count }

end Aquarium

end AquariumControl
