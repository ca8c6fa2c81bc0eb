import AquariumControl.Rule.Command

/-!
# Top-up rules

A top-up rule refills the tank when a float switch reports low water.  A reading above zero is
HIGH and means that the water is below the mark.  All actuators of the controller are driven as
one group.

```text
        HIGH              HIGH > delayHigh
   ok ───────▶ debounce ───────────────────▶ refill ──── HIGH > timeout ───▶ timedOut
   ▲              │ LOW                       │   ▲
   │◀─────────────┘                       LOW │   │ HIGH
   │                                          ▼   │
   └───────────── LOW > delayLow ─────────── overrun
```

A wave does not last for `delayHigh` seconds and starts nothing.  `delayLow` keeps the pump running
a little past the mark.  A refill that takes longer than `timeout` seconds means that the reservoir
is empty: the rule stops until it is reset.
-/

set_option autoImplicit false

namespace AquariumControl

inductive LevelState
  | ok
  | debounce
  | refill
  | overrun
  | timedOut
deriving DecidableEq

/-- The settings and the state of a top-up rule. -/
structure TopUp where
  sensor : SlotId
  /-- Seconds of LOW before the refill stops. -/
  delayLow : UInt16
  /-- Seconds of HIGH before a refill starts. -/
  delayHigh : UInt16
  /-- Seconds that a refill may take. -/
  timeout : UInt16
  state : LevelState
  /-- The uptime that the waiting time is counted from. -/
  since : UInt64
deriving DecidableEq

namespace TopUp

def default : TopUp where
  sensor := .unassigned
  delayLow := 10
  delayHigh := 3
  timeout := 30
  state := .ok
  since := 0

/-! ## Settings -/

/-- One setting of a top-up rule with its new value. -/
inductive Setting
  | sensor (id : SlotId)
  | delayLow (seconds : UInt16)
  | delayHigh (seconds : UInt16)
  | timeout (seconds : UInt16)
deriving DecidableEq

/-- Changes one setting; the state stays as it is. -/
def set (r : TopUp) : Setting → TopUp
  | .sensor id => { r with sensor := id }
  | .delayLow s => { r with delayLow := s }
  | .delayHigh s => { r with delayHigh := s }
  | .timeout s => { r with timeout := s }

/-! ## One evaluation -/

/-- Whether more than `seconds` have passed from uptime `since` to `now`, modulo `2 ^ 64`
milliseconds. -/
def exceeds (since now : UInt64) (seconds : UInt16) : Bool :=
  decide (1000 * seconds.toNat < (now - since).toNat)

/-- One step of the state machine at uptime `now`. -/
def step (r : TopUp) (high : Bool) (now : UInt64) : Command TopUp :=
  match r.state with
  | .ok => do
    let _ ← Command.switchAll false
    pure (if high then { r with state := .debounce, since := now } else r)
  | .debounce =>
    if !high then
      pure { r with state := .ok }
    else if exceeds r.since now r.delayHigh then do
      let _ ← Command.switchAll true
      pure { r with state := .refill, since := now }
    else
      pure r
  | .refill =>
    if !high then
      pure { r with state := .overrun, since := now }
    else if exceeds r.since now r.timeout then do
      Command.note (.refillTimedOut r.timeout)
      let _ ← Command.switchAll false
      pure { r with state := .timedOut }
    else
      pure r
  | .overrun =>
    if high then
      pure { r with state := .refill }
    else if exceeds r.since now r.delayLow then do
      let _ ← Command.switchAll false
      pure { r with state := .ok }
    else
      pure r
  | .timedOut => pure r

/-- Evaluates the rule, unless it has timed out or there is no reading. -/
def run (r : TopUp) (s : Situation) : Command (RunStatus × TopUp) :=
  if r.state = .timedOut then
    pure (.latched, r)
  else
    match s.readings.get? r.sensor with
    | none => pure (.skipped, r)
    | some reading => do
      let r' ← r.step (Binary.zero.lt reading) s.uptime
      pure (.ran, r')

def reset (r : TopUp) : TopUp :=
  { r with state := .ok, since := 0 }

/-! ## The stored form -/

def encode (r : TopUp) : List UInt8 :=
  Wire.writeSlotId r.sensor ++ Wire.writeUInt16 r.delayLow ++ Wire.writeUInt16 r.delayHigh ++
    Wire.writeUInt16 r.timeout

/-- The stored settings: the sensor, `delayLow`, `delayHigh` and `timeout`. -/
def readSettings : Reader (SlotId × UInt16 × UInt16 × UInt16) := do
  let sensor ← Wire.readSlotId
  let delayLow ← Wire.readUInt16
  let delayHigh ← Wire.readUInt16
  let timeout ← Wire.readUInt16
  pure (sensor, delayLow, delayHigh, timeout)

/-- Takes settings from bytes.  The state is not stored and stays as it is. -/
def load (r : TopUp) (bytes : List UInt8) : Except CodecError (TopUp × Nat) :=
  match Reader.decode readSettings bytes with
  | .error e => .error e
  | .ok ((sensor, delayLow, delayHigh, timeout), used) =>
    .ok ({ r with
      sensor := sensor.within sensorCapacity
      delayLow := delayLow
      delayHigh := delayHigh
      timeout := timeout }, used)

instance : Rule TopUp where
  kind := fun _ => .topUp
  run := TopUp.run
  save := fun r capacity => Block.fit capacity r.encode
  load := TopUp.load
  reset := TopUp.reset

end TopUp

end AquariumControl
