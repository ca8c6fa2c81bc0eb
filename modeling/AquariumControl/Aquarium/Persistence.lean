import AquariumControl.Aquarium.Basic
import AquariumControl.Store

/-!
# Saving and restoring

The record of every kind of object (`record`), how an object takes one over (`take`), and the two
passes over all objects.  `saveAll` writes one record per object; `restoreAll` gives every object
the record that is stored for it.  Neither stops at a failure: an object that cannot be saved or
restored is counted, reported and left as it was.
-/

set_option autoImplicit false

namespace AquariumControl

/-! ## Objects and their records -/

namespace ControllerSlot

variable {ρ : Type} [Rule ρ]

/-- The record of a controller in a place. -/
def record (s : ControllerSlot ρ) (id : SlotId) : Except CodecError Record :=
  (Record.payloadOf (Rule.save s.rule payloadCapacity)).map fun payload =>
    ⟨s.kind.tag, id, .unassigned, .unassigned, s.name, payload⟩

/-- The controller with the parameters and the name of a record. -/
def take (s : ControllerSlot ρ) (r : Record) : Except CodecError (ControllerSlot ρ) :=
  (Rule.load s.rule r.payload.val).map fun loaded => { s with rule := loaded.1, name := r.name }

/-- Restores a controller from the record of a place. -/
def restore {τ : Type} [Storage τ] (s : ControllerSlot ρ) (store : ConfigStore τ) (id : SlotId) :
    Outcome (ControllerSlot ρ) (Except Fault Restore) :=
  store.restore ⟨.controller, id⟩ s.kind.tag s.take s

end ControllerSlot

namespace ActuatorSlot

variable {δ : Type} [Actuator δ]

/-- The record of an actuator in a place, which includes the controller it is assigned to. -/
def record (s : ActuatorSlot δ) (id : SlotId) : Except CodecError Record :=
  (Record.payloadOf (Actuator.save s.device payloadCapacity)).map fun payload =>
    ⟨s.kind.tag, s.controller, id, .unassigned, s.name, payload⟩

/-- The actuator with the parameters, the name and the controller of a record. -/
def take (s : ActuatorSlot δ) (r : Record) : Except CodecError (ActuatorSlot δ) :=
  (Actuator.load s.device r.payload.val).map fun loaded =>
    { s with device := loaded.1, name := r.name, controller := r.controller }

/-- Restores an actuator from the record of a place. -/
def restore {τ : Type} [Storage τ] (s : ActuatorSlot δ) (store : ConfigStore τ) (id : SlotId) :
    Outcome (ActuatorSlot δ) (Except Fault Restore) :=
  store.restore ⟨.actuator, id⟩ s.kind.tag s.take s

end ActuatorSlot

namespace SensorSlot

variable {σ : Type} [Sensor σ]

/-- The record of a sensor in a place. -/
def record (s : SensorSlot σ) (id : SlotId) : Except CodecError Record :=
  (Record.payloadOf (Sensor.save s.device payloadCapacity)).map fun payload =>
    ⟨s.kind.tag, .unassigned, .unassigned, id, s.name, payload⟩

/-- The sensor with the parameters and the name of a record. -/
def take (s : SensorSlot σ) (r : Record) : Except CodecError (SensorSlot σ) :=
  (Sensor.load s.device r.payload.val).map fun loaded =>
    { s with device := loaded.1, name := r.name }

/-- Restores a sensor from the record of a place. -/
def restore {τ : Type} [Storage τ] (s : SensorSlot σ) (store : ConfigStore τ) (id : SlotId) :
    Outcome (SensorSlot σ) (Except Fault Restore) :=
  store.restore ⟨.sensor, id⟩ s.kind.tag s.take s

end SensorSlot

/-! ## Counting and reporting -/

/-- Counts the outcome of saving one object. -/
def Tally.addSave (t : Tally) : Except Fault Unit → Tally
  | .ok () => { t with applied := t.applied + 1 }
  | .error _ => { t with failed := t.failed + 1 }

/-- Counts the outcome of restoring one object. -/
def Tally.addRestore (t : Tally) : Except Fault Restore → Tally
  | .ok .applied => { t with applied := t.applied + 1 }
  | .ok .notFound => { t with notFound := t.notFound + 1 }
  | .ok (.typeMismatch _ _) => { t with mismatched := t.mismatched + 1 }
  | .error _ => { t with failed := t.failed + 1 }

/-- What is reported of saving one object. -/
def saveReport (key : Label) : Except Fault Unit → Journal
  | .ok () => [.event (.configSaved key)]
  | .error f => [.notice (.writingFailed key f), .event (.configFailed key)]

/-- What is reported of restoring one object; nothing if there was no record. -/
def restoreReport (key : Label) : Except Fault Restore → Journal
  | .ok .applied => [.event (.configRestored key)]
  | .ok .notFound => []
  | .ok (.typeMismatch stored live) => [.event (.configTypeMismatch key stored live)]
  | .error f => [.notice (.readingFailed key f), .event (.configFailed key)]

namespace Aquarium

variable {ρ δ σ τ : Type} [Rule ρ] [Actuator δ] [Sensor σ] [Storage τ]

/-! ## Saving -/

/-- The labels of all objects with their records, in the order in which they are saved. -/
def records (a : Aquarium ρ δ σ) : List (Label × Except CodecError Record) :=
  (a.controllers.entries.map fun e => (⟨.controller, e.1⟩, e.2.record e.1)) ++
    (a.actuators.entries.map fun e => (⟨.actuator, e.1⟩, e.2.record e.1)) ++
    (a.sensors.entries.map fun e => (⟨.sensor, e.1⟩, e.2.record e.1))

/-- Saves one object and adds to the count. -/
def saveStep (acc : Outcome (ConfigStore τ) Tally) (object : Label × Except CodecError Record) :
    Outcome (ConfigStore τ) Tally :=
  let saved := acc.state.save object.1 object.2
  ⟨acc.answer.addSave saved.answer, saved.state,
    acc.journal ++ saved.journal ++ saveReport object.1 saved.answer⟩

/-- Saves every object. -/
def saveAll (a : Aquarium ρ δ σ) (store : ConfigStore τ) : Outcome (ConfigStore τ) Tally :=
  let saved := a.records.foldl saveStep ⟨Tally.zero, store, []⟩
  { saved with journal := saved.journal ++ [.notice (.saved saved.answer)] }

/-! ## Restoring -/

/-- Restores one object and adds to the count. -/
def restoreStep {α : Type} (tag : Tag)
    (restore : α → SlotId → Outcome α (Except Fault Restore)) (acc : Tally × Journal)
    (id : SlotId) (object : α) : α × (Tally × Journal) :=
  let restored := restore object id
  (restored.state,
    (acc.1.addRestore restored.answer,
      acc.2 ++ restored.journal ++ restoreReport ⟨tag, id⟩ restored.answer))

/-- Restores every object. -/
def restoreAll (a : Aquarium ρ δ σ) (store : ConfigStore τ) : Outcome (Aquarium ρ δ σ) Tally :=
  let (controllers, acc) :=
    a.controllers.mapAccum (restoreStep .controller fun s => s.restore store) (Tally.zero, [])
  let (actuators, acc) :=
    a.actuators.mapAccum (restoreStep .actuator fun s => s.restore store) acc
  let (sensors, acc) :=
    a.sensors.mapAccum (restoreStep .sensor fun s => s.restore store) acc
  ⟨acc.1, { a with controllers := controllers, actuators := actuators, sensors := sensors },
    acc.2 ++ [.notice (.restored acc.1)]⟩

end Aquarium

end AquariumControl
