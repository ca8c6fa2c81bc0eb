import AquariumControl.Rule.Command

/-!
# Thermostats

A thermostat keeps the water between two temperatures with a heater and a cooler.

```text
              T < low                         T > high
  heating ◀────────────── idle ──────────────▶ cooling
     │   low + hysteresis ≤ T        T ≤ high - hysteresis   │
     └─────────────────────▶ idle ◀───────────────────────────┘
```

A reading that lies beyond the far threshold takes it from one side straight to the other.  A side
whose actuator is not this controller's is never entered.

The outputs are driven when the state changes, and again after a failed command, a new assignment
or a restored record (`synced`).
-/

set_option autoImplicit false

namespace AquariumControl

inductive ThermalState
  | idle
  | heating
  | cooling
deriving DecidableEq

/-- The settings and the state of a thermostat. -/
structure Thermostat where
  sensor : SlotId
  low : Binary64
  heatHysteresis : Binary64
  heater : SlotId
  high : Binary64
  coolHysteresis : Binary64
  cooler : SlotId
  state : ThermalState
  /-- The outputs have been driven to what `state` asks for. -/
  synced : Bool
deriving DecidableEq

namespace Thermostat

/-- From 24 to 26 °C with half a degree of hysteresis, and nothing connected. -/
def default : Thermostat where
  sensor := .unassigned
  low := Binary64.ofFloat 24.0
  heatHysteresis := Binary64.ofFloat 0.5
  heater := .unassigned
  high := Binary64.ofFloat 26.0
  coolHysteresis := Binary64.ofFloat 0.5
  cooler := .unassigned
  state := .idle
  synced := false

/-! ## Settings -/

/-- One setting of a thermostat with its new value. -/
inductive Setting
  | sensor (id : SlotId)
  | low (celsius : Binary64)
  | heatHysteresis (kelvin : Binary64)
  | heater (id : SlotId)
  | high (celsius : Binary64)
  | coolHysteresis (kelvin : Binary64)
  | cooler (id : SlotId)
deriving DecidableEq

/-- Changes one setting.  The outputs are driven again after one of them was chosen anew. -/
def set (r : Thermostat) : Setting → Thermostat
  | .sensor id => { r with sensor := id }
  | .low x => { r with low := x }
  | .heatHysteresis x => { r with heatHysteresis := x }
  | .heater id => { r with heater := id, synced := false }
  | .high x => { r with high := x }
  | .coolHysteresis x => { r with coolHysteresis := x }
  | .cooler id => { r with cooler := id, synced := false }

/-! ## One evaluation -/

/-- The state after a reading `t`. -/
def next (r : Thermostat) (t : Binary64) (canHeat canCool : Bool) : ThermalState :=
  let current := match r.state with
    | .idle => .idle
    | .heating => if canHeat then .heating else .idle
    | .cooling => if canCool then .cooling else .idle
  let tooCold := canHeat && t.lt r.low
  let tooWarm := canCool && r.high.lt t
  match current with
  | ThermalState.idle => if tooCold then .heating else if tooWarm then .cooling else .idle
  | .heating =>
    if tooWarm then .cooling
    else if (r.low.add r.heatHysteresis).le t then .idle
    else .heating
  | .cooling =>
    if tooCold then .heating
    else if t.le (r.high.sub r.coolHysteresis) then .idle
    else .cooling

/-- Switches an output that is available; answers whether that succeeded. -/
def drive (id : SlotId) (available on : Bool) : Command Bool :=
  if available then Command.switch id on else pure true

/-- Drives both outputs to what the state asks for, the side that goes off first. -/
def apply (r : Thermostat) (canHeat canCool : Bool) : Command Bool :=
  if r.state = .heating then do
    let first ← drive r.cooler canCool false
    let second ← drive r.heater canHeat true
    pure (first && second)
  else do
    let first ← drive r.heater canHeat false
    let second ← drive r.cooler canCool (r.state = .cooling)
    pure (first && second)

/-- Takes the reading into account and drives the outputs if need be. -/
def run (r : Thermostat) (s : Situation) : Command (RunStatus × Thermostat) :=
  match s.readings.get? r.sensor with
  | none => pure (.skipped, r)
  | some t => do
    let canHeat ← Command.owns r.heater
    let canCool ← Command.owns r.cooler
    let next := r.next t canHeat canCool
    if next ≠ r.state ∨ r.synced = false then
      let r' := { r with state := next }
      let ok ← r'.apply canHeat canCool
      pure (.ran, { r' with synced := ok })
    else
      pure (.ran, r)

/-- Back to idle; the outputs follow at the next run. -/
def reset (r : Thermostat) : Thermostat :=
  { r with state := .idle, synced := false }

/-! ## The stored form -/

/-- What is stored of a thermostat, in the order in which it is stored. -/
structure Stored where
  sensor : SlotId
  low : Binary64
  heatHysteresis : Binary64
  heater : SlotId
  high : Binary64
  coolHysteresis : Binary64
  cooler : SlotId
  cooling : Bool
  heating : Bool
deriving DecidableEq

def Stored.encode (s : Stored) : List UInt8 :=
  Wire.writeSlotId s.sensor ++ Wire.writeBinary s.low ++ Wire.writeBinary s.heatHysteresis ++
    Wire.writeSlotId s.heater ++ Wire.writeBinary s.high ++ Wire.writeBinary s.coolHysteresis ++
    Wire.writeSlotId s.cooler ++ Wire.writeBool s.cooling ++ Wire.writeBool s.heating

def Stored.read : Reader Stored := do
  let sensor ← Wire.readSlotId
  let low ← Wire.readBinary Format.double
  let heatHysteresis ← Wire.readBinary Format.double
  let heater ← Wire.readSlotId
  let high ← Wire.readBinary Format.double
  let coolHysteresis ← Wire.readBinary Format.double
  let cooler ← Wire.readSlotId
  let cooling ← Wire.readBool
  let heating ← Wire.readBool
  pure ⟨sensor, low, heatHysteresis, heater, high, coolHysteresis, cooler, cooling, heating⟩

def stored (r : Thermostat) : Stored where
  sensor := r.sensor
  low := r.low
  heatHysteresis := r.heatHysteresis
  heater := r.heater
  high := r.high
  coolHysteresis := r.coolHysteresis
  cooler := r.cooler
  cooling := r.state = .cooling
  heating := r.state = .heating

/-- The state that two stored flags describe; it cannot be heating and cooling at once. -/
def stateOf? (heating cooling : Bool) : Option ThermalState :=
  match heating, cooling with
  | false, false => some .idle
  | true, false => some .heating
  | false, true => some .cooling
  | true, true => none

/-- Takes settings and state from bytes.  Ids that no registry has become unassigned. -/
def load (bytes : List UInt8) : Except CodecError (Thermostat × Nat) :=
  match Reader.decode Stored.read bytes with
  | .error e => .error e
  | .ok (s, used) =>
    match stateOf? s.heating s.cooling with
    | none => .error .invalid
    | some state =>
      .ok (⟨s.sensor.within sensorCapacity, s.low, s.heatHysteresis,
        s.heater.within actuatorCapacity, s.high, s.coolHysteresis,
        s.cooler.within actuatorCapacity, state, false⟩, used)

instance : Rule Thermostat where
  kind := fun _ => .thermostat
  run := Thermostat.run
  save := fun r capacity => Block.fit capacity r.stored.encode
  load := fun _ bytes => Thermostat.load bytes
  reset := Thermostat.reset

end Thermostat

end AquariumControl
