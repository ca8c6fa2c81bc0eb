import AquariumControl.Bench.Kit
import AquariumControl.Record

/-!
# Rigs

A rig is one rule with relays of its own and a reading table, for trying a rule out without an
aquarium around it.  Relays that were removed from the rig still exist and can be looked at.
-/

set_option autoImplicit false

namespace AquariumControl

/-- A rule under test, and what it works on. -/
structure Rig where
  /-- The place the rule believes to have. -/
  id : SlotId
  rule : AnyRule
  actuators : Actuators Relay
  readings : Readings
  /-- The relays that were removed, by their former places. -/
  retired : List (SlotId × Relay)
  /-- How many relays there were at first. -/
  relays : Nat

/-- What one run of the rule did. -/
structure RigRun where
  status : RunStatus
  switches : List Switch

namespace Rig

/-- A rig with relays in the first places, each with its controller and its state. -/
def create (id : SlotId) (rule : AnyRule) (relays : List (SlotId × Bool)) : Rig where
  id := id
  rule := rule
  actuators := relays.foldl
    (fun r relay =>
      match r.add ⟨Name.ofString "relay", .unassigned, relay.1, ⟨relay.2, .none⟩⟩ with
      | none => r
      | some (_, r') => r')
    Actuators.empty
  readings := Readings.empty
  retired := []
  relays := relays.length

/-- The relay that was first put into a place. -/
def relay? (r : Rig) (id : SlotId) : Option Relay :=
  match r.actuators.get? id with
  | some slot => some slot.device
  | none => (r.retired.find? fun e => e.1 == id).map Prod.snd

/-- The states of all relays in the order of their places. -/
def states (r : Rig) : List Bool :=
  (List.range r.relays).map fun i => (r.relay? (SlotId.ofNat i)).any Relay.on

/-- Changes a relay from outside. -/
def rewire (r : Rig) (id : SlotId) (change : Relay → Relay) : Rig :=
  { r with
    actuators := r.actuators.modify id fun slot => { slot with device := change slot.device }
    retired := r.retired.map fun e => if e.1 = id then (e.1, change e.2) else e }

/-- Assigns a relay to a controller; `none` if there is no relay in the place. -/
def assign (r : Rig) (id controller : SlotId) : Option Rig :=
  if r.actuators.contains id then
    some { r with
      actuators := r.actuators.modify id fun slot => { slot with controller := controller } }
  else
    none

/-- Removes a relay, if there is one in the place. -/
def remove (r : Rig) (id : SlotId) : Option Rig :=
  match r.actuators.remove id with
  | none => none
  | some (slot, actuators) =>
    some { r with actuators := actuators, retired := r.retired ++ [(id, slot.device)] }

/-- Runs the rule once. -/
def run (r : Rig) (uptime : UInt64) (time : Option TimeOfDay) : RigRun × Rig :=
  let ((status, rule), plant) :=
    (Rule.run r.rule ⟨r.id, r.readings, uptime, time⟩).perform r.id ⟨r.actuators, [], []⟩
  (⟨status, plant.switches⟩, { r with rule := rule, actuators := plant.actuators })

/-- Saves the rule and loads what was saved into a new rule of the same kind, which takes its
place.  The new rule stays even if it refuses what was saved. -/
def reload (r : Rig) : Except CodecError Nat × Rig :=
  match Record.payloadOf (Rule.save r.rule payloadCapacity) with
  | .error e => (.error e, r)
  | .ok payload =>
    match Rule.load r.rule.renewed payload.val with
    | .error e => (.error e, { r with rule := r.rule.renewed })
    | .ok (rule, used) => (.ok used, { r with rule := rule })

end Rig

end AquariumControl
