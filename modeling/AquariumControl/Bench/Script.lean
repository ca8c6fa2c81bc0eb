import AquariumControl.Rule.Command

/-!
# Scripted rules

A rule that carries out a list of actions whenever it is run, and keeps the answers.  What it
stores and what it accepts from storage can be set as well, so that it shows how the program deals
with rules of any behaviour.
-/

set_option autoImplicit false

namespace AquariumControl

/-- Something a rule can do or ask. -/
inductive ScriptAction
  | switch (actuator : SlotId) (on : Bool)
  | switchAll (on : Bool)
  | owns (actuator : SlotId)
  | isOn (actuator : SlotId)
  | reading (sensor : SlotId)
  /-- The places of the assigned actuators, written over so many empty ones. -/
  | assigned (room : Nat)
  /-- Who the rule is and what time it is. -/
  | situation

/-- What came of an action. -/
inductive ScriptAnswer
  | accepted (ok : Bool)
  | count (n : Nat)
  | state (on : Option Bool)
  | value (x : Option Binary64)
  | places (total : Nat) (ids : List SlotId)
  | situation (controller : SlotId) (uptime : UInt64) (time : Option TimeOfDay)

/-- How a script writes its parameters. -/
inductive ScriptSaving
  | refuse (e : CodecError)
  /-- Writes nothing, and claims a length. -/
  | claim (n : Nat)
  | bytes (bytes : List UInt8)

/-- A scripted rule. -/
structure Script where
  actions : List ScriptAction
  status : RunStatus
  saving : ScriptSaving
  /-- Why it refuses stored parameters, if it does. -/
  loadError : Option CodecError
  /-- The answers of every run since the last time they were collected. -/
  heard : List (SlotId × List ScriptAnswer)

namespace Script

/-- A script that does nothing and stores nothing. -/
def default : Script := ⟨[], .ran, .bytes [], none, []⟩

def act (s : Situation) : ScriptAction → Command ScriptAnswer
  | .switch id on => do
    let ok ← Command.switch id on
    pure (.accepted ok)
  | .switchAll on => do
    let n ← Command.switchAll on
    pure (.count n)
  | .owns id => do
    let b ← Command.owns id
    pure (.accepted b)
  | .isOn id => do
    let b ← Command.isOn id
    pure (.state b)
  | .reading sensor => pure (.value (s.readings.get? sensor))
  | .assigned room => do
    let ids ← Command.assigned
    let (total, written) := fill ids (List.replicate room .unassigned)
    pure (.places total written)
  | .situation => pure (.situation s.controller s.uptime s.timeOfDay)

def run (r : Script) (s : Situation) : Command (RunStatus × Script) := do
  let answers ← r.actions.mapM (act s)
  pure (r.status, { r with heard := r.heard ++ [(s.controller, answers)] })

def save (r : Script) (capacity : Nat) : Except CodecError Block :=
  match r.saving with
  | .refuse e => .error e
  | .claim n => .ok ⟨[], n⟩
  | .bytes bytes => Block.fit capacity bytes

/-- Accepts any bytes as its own, unless it is set to refuse them. -/
def load (r : Script) (bytes : List UInt8) : Except CodecError (Script × Nat) :=
  match r.loadError with
  | some e => .error e
  | none => .ok ({ r with saving := .bytes bytes }, bytes.length)

instance : Rule Script where
  kind := fun _ => .custom
  run := Script.run
  save := Script.save
  load := Script.load

end Script

end AquariumControl
