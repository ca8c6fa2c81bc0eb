import AquariumControl.Aquarium.Persistence
import AquariumControl.Bench.Kit
import AquariumControl.Bench.Media
import AquariumControl.Bench.UplinkMode

/-!
# The test stand

A whole installation on the bench: an aquarium of kit parts, a store on a medium that can fail,
the scheduler with its tick signal, and an uplink.  Rebooting empties the aquarium; all else stays.

Objects of the three kinds are addressed by `Tag` and place.  `visitController`, `visitActuator`
and `visitSensor` reach into one of them; operations that all kinds have in common are built on
these.
-/

set_option autoImplicit false

namespace AquariumControl

/-- An installation on the bench. -/
structure Stand where
  aquarium : Aquarium AnyRule AnyOutput AnySensor
  store : ConfigStore (Faulty Medium)
  scheduler : Scheduler
  tick : TickSignal
  uplink : UplinkMode

/-- What can be said of every registered object. -/
structure Nameplate where
  label : Label
  name : Name
  /-- The tag of the object's kind. -/
  kind : UInt8
  /-- The controller that an actuator is assigned to; other objects have none. -/
  controller : Option SlotId
deriving DecidableEq

def ControllerSlot.nameplate {ρ : Type} [Rule ρ] (s : ControllerSlot ρ) : Nameplate :=
  ⟨s.label, s.name, s.kind.tag, none⟩

def ActuatorSlot.nameplate {δ : Type} [Actuator δ] (s : ActuatorSlot δ) : Nameplate :=
  ⟨s.label, s.name, s.kind.tag, some s.controller⟩

def SensorSlot.nameplate {σ : Type} [Sensor σ] (s : SensorSlot σ) : Nameplate :=
  ⟨s.label, s.name, s.kind.tag, none⟩

namespace Stand

variable {α : Type}

/-- A stand with an empty aquarium and an uplink that works. -/
def create (medium : Medium) (space : String) (config : SystemConfig) : Stand where
  aquarium := Aquarium.empty
  store := ⟨⟨medium, Faults.none⟩, space⟩
  scheduler := Scheduler.ofConfig config
  tick := TickSignal.idle
  uplink := .accept

/-- The stand after something happened to its aquarium. -/
def after (s : Stand) (o : Outcome (Aquarium AnyRule AnyOutput AnySensor) α) : Outcome Stand α :=
  o.lift fun aquarium => { s with aquarium := aquarium }

/-- The stand after something happened to its store. -/
def stored (s : Stand) (o : Outcome (ConfigStore (Faulty Medium)) α) : Outcome Stand α :=
  o.lift fun store => { s with store := store }

def reboot (s : Stand) : Stand :=
  { s with aquarium := Aquarium.empty }

/-! ## Reaching into one object -/

/-- Lets something happen to the occupant of a place, if there is one. -/
def visit {β : Type} {capacity : Nat} (r : Registry β capacity) (id : SlotId)
    (f : β → Outcome β α) : Outcome (Registry β capacity) (Option α) :=
  match r.get? id with
  | none => ⟨none, r, []⟩
  | some b =>
    let o := f b
    ⟨some o.answer, r.modify id fun _ => o.state, o.journal⟩

def visitController (s : Stand) (id : SlotId)
    (f : ControllerSlot AnyRule → Outcome (ControllerSlot AnyRule) α) :
    Outcome Stand (Option α) :=
  let o := visit s.aquarium.controllers id f
  ⟨o.answer, { s with aquarium := { s.aquarium with controllers := o.state } }, o.journal⟩

def visitActuator (s : Stand) (id : SlotId)
    (f : ActuatorSlot AnyOutput → Outcome (ActuatorSlot AnyOutput) α) :
    Outcome Stand (Option α) :=
  let o := visit s.aquarium.actuators id f
  ⟨o.answer, { s with aquarium := { s.aquarium with actuators := o.state } }, o.journal⟩

def visitSensor (s : Stand) (id : SlotId)
    (f : SensorSlot AnySensor → Outcome (SensorSlot AnySensor) α) : Outcome Stand (Option α) :=
  let o := visit s.aquarium.sensors id f
  ⟨o.answer, { s with aquarium := { s.aquarium with sensors := o.state } }, o.journal⟩

/-! ## Objects of any kind -/

/-- The nameplate of an object, and the place at which the object itself is found. -/
def lookup (s : Stand) (id : SlotId) : Tag → Option (Nameplate × Option SlotId)
  | .controller => (s.aquarium.controllers.get? id).map fun slot =>
      (slot.nameplate, s.aquarium.controllers.find? (.occupant id))
  | .actuator => (s.aquarium.actuators.get? id).map fun slot =>
      (slot.nameplate, s.aquarium.actuators.find? (.occupant id))
  | .sensor => (s.aquarium.sensors.get? id).map fun slot =>
      (slot.nameplate, s.aquarium.sensors.find? (.occupant id))

/-- Removes an object; the answer is its nameplate. -/
def remove (s : Stand) (id : SlotId) : Tag → Outcome Stand (Option Nameplate)
  | .controller => s.after ((s.aquarium.removeController id).map fun slot =>
      slot.map ControllerSlot.nameplate)
  | .actuator => s.after ((s.aquarium.removeActuator id).map fun slot =>
      slot.map ActuatorSlot.nameplate)
  | .sensor => s.after ((s.aquarium.removeSensor id).map fun slot =>
      slot.map SensorSlot.nameplate)

/-- Gives an object another name, which is the answer. -/
def rename (s : Stand) (id : SlotId) (name : Name) : Tag → Outcome Stand (Option Name)
  | .controller => s.visitController id fun slot => ⟨name, { slot with name := name }, []⟩
  | .actuator => s.visitActuator id fun slot => ⟨name, { slot with name := name }, []⟩
  | .sensor => s.visitSensor id fun slot => ⟨name, { slot with name := name }, []⟩

/-- Moves the cursor of a registry on, from the beginning if so wanted. -/
def advance {β : Type} {capacity : Nat} (r : Registry β capacity) (rewound : Bool) :
    Option SlotId × Registry β capacity :=
  let (entry, r') := (if rewound then r.rewind else r).next
  (entry.map Prod.fst, r')

/-- The next object of a kind. -/
def next (s : Stand) (rewound : Bool) : Tag → Option SlotId × Stand
  | .controller =>
    let (id, r) := advance s.aquarium.controllers rewound
    (id, { s with aquarium := { s.aquarium with controllers := r } })
  | .actuator =>
    let (id, r) := advance s.aquarium.actuators rewound
    (id, { s with aquarium := { s.aquarium with actuators := r } })
  | .sensor =>
    let (id, r) := advance s.aquarium.sensors rewound
    (id, { s with aquarium := { s.aquarium with sensors := r } })

/-! ## Storing one object -/

/-- The record of an object as if it stood in another place. -/
def recordAt (s : Stand) (id place : SlotId) : Tag → Option (Except CodecError Record)
  | .controller => (s.aquarium.controllers.get? id).map fun slot => slot.record place
  | .actuator => (s.aquarium.actuators.get? id).map fun slot => slot.record place
  | .sensor => (s.aquarium.sensors.get? id).map fun slot => slot.record place

/-- Stores an object under the label of a place. -/
def save (s : Stand) (id place : SlotId) (tag : Tag) :
    Outcome Stand (Option (Except Fault Unit)) :=
  match s.recordAt id place tag with
  | none => ⟨none, s, []⟩
  | some record => (s.stored (s.store.save ⟨tag, place⟩ record)).map some

/-- Restores an object from the record under the label of a place. -/
def restore (s : Stand) (id place : SlotId) :
    Tag → Outcome Stand (Option (Except Fault Restore))
  | .controller => s.visitController id fun slot => slot.restore s.store place
  | .actuator => s.visitActuator id fun slot => slot.restore s.store place
  | .sensor => s.visitSensor id fun slot => slot.restore s.store place

/-! ## What surrounds the aquarium -/

/-- Exposes a sensor to a stimulus. -/
def expose (s : Stand) (id : SlotId) (stimulus : Stimulus) : Outcome Stand (Option Unit) :=
  s.visitSensor id fun slot => ⟨(), { slot with device := slot.device.expose stimulus }, []⟩

/-- Changes what is behind an actuator. -/
def rewire (s : Stand) (id : SlotId) (change : AnyOutput → AnyOutput) :
    Outcome Stand (Option Unit) :=
  s.visitActuator id fun slot => ⟨(), { slot with device := change slot.device }, []⟩

/-- Chooses which storage operations fail. -/
def setFaults (s : Stand) (faults : Faults) : Stand :=
  { s with store := { s.store with storage := { s.store.storage with faults := faults } } }

/-- Writes to the storage itself. -/
def poke (s : Stand) (key : String) (bytes : List UInt8) :
    Outcome Stand (Except StorageError Unit) :=
  (Storage.write s.store.storage s.store.space key bytes).lift fun storage =>
    { s with store := { s.store with storage := storage } }

/-- Reads from the storage itself. -/
def peek (s : Stand) (key : String) (capacity : Nat) : Except StorageError Block × Journal :=
  Storage.read s.store.storage s.store.space key capacity

/-! ## The main loop -/

/-- One pass of the main loop. -/
def step (s : Stand) (now : UInt64) (time : Option TimeOfDay) :
    Outcome Stand (Option CycleReport) :=
  let o := Scheduler.step ⟨s.scheduler, s.tick, s.aquarium⟩ now time s.uplink.uplink
  ⟨o.answer,
    { s with
      scheduler := o.state.scheduler
      tick := o.state.tick
      aquarium := o.state.aquarium },
    o.journal⟩

/-- Offers the waiting samples to the uplink; the answer is how many wait afterwards. -/
def flush (s : Stand) (now : UInt64) : Outcome Stand Nat :=
  let o := s.scheduler.flush s.aquarium now s.uplink.uplink
  ⟨o.state.2.telemetry.length, { s with scheduler := o.state.1, aquarium := o.state.2 },
    o.journal⟩

/-- Takes away what the scripts have heard. -/
def collect (s : Stand) : List (SlotId × List ScriptAnswer) × Stand :=
  let (controllers, heard) := s.aquarium.controllers.mapAccum
    (fun heard _ slot =>
      let (more, rule) := slot.rule.collect
      ({ slot with rule := rule }, heard ++ more)) []
  (heard, { s with aquarium := { s.aquarium with controllers := controllers } })

end Stand

end AquariumControl
