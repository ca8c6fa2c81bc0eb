import AquariumControl.Aquarium.Basic

/-!
# Status

A snapshot of everything that is registered, for those who display it, and its text in JSON.  The
text has no blanks, names its fields in the order of the structures here, and writes numbers with
the fewest digits that read back; what is no finite number is `null`.
-/

set_option autoImplicit false

namespace AquariumControl

structure ControllerStatus where
  id : SlotId
  name : Name
  kind : UInt8
deriving DecidableEq

structure ActuatorStatus where
  id : SlotId
  name : Name
  kind : UInt8
  controller : SlotId
  on : Bool
  /-- The level at the output, of an actuator that has levels. -/
  pwm : Option Binary32
deriving DecidableEq

structure SensorStatus where
  id : SlotId
  name : Name
  kind : UInt8
  value : Option Binary64
deriving DecidableEq

/-- Every object, in ascending order of the places. -/
structure Status where
  cycle : UInt64
  controllers : List ControllerStatus
  actuators : List ActuatorStatus
  sensors : List SensorStatus
deriving DecidableEq

/-- The present status. -/
def Aquarium.status {ρ δ σ : Type} [Rule ρ] [Actuator δ] [Sensor σ] (a : Aquarium ρ δ σ) :
    Status where
  cycle := a.cycles
  controllers := a.controllers.entries.map fun (id, s) => ⟨id, s.name, s.kind.tag⟩
  actuators := a.actuators.entries.map fun (id, s) =>
    ⟨id, s.name, s.kind.tag, s.controller, s.isOn,
      if Actuator.supportsPwm s.device then some (Actuator.pwm s.device) else none⟩
  sensors := a.sensors.entries.map fun (id, s) => ⟨id, s.name, s.kind.tag, a.sensorValue id⟩

/-! ## Text -/

namespace Status

/-- Sensor values: from `0.00001` up to sixteen digits before the point in plain notation. -/
def valueLayout : Decimal.Layout := ⟨-5, 15, "null"⟩

/-- Levels: from `0.000001` up to thirteen digits before the point in plain notation. -/
def levelLayout : Decimal.Layout := ⟨-6, 12, "null"⟩

/-- A character inside quotes. -/
def escape (c : Char) : String :=
  if c = '"' then "\\\""
  else if c = '\\' then "\\\\"
  else if c = '\x08' then "\\b"
  else if c = '\x0c' then "\\f"
  else if c = '\n' then "\\n"
  else if c = '\r' then "\\r"
  else if c = '\t' then "\\t"
  else if c.toNat < 32 then "\\u00" ++ hexByte lowerHex (UInt8.ofNat c.toNat)
  else String.singleton c

def quoted (s : String) : String :=
  "\"" ++ String.join (s.toList.map escape) ++ "\""

/-- Named values between braces. -/
def object (fields : List (String × String)) : String :=
  "\x7b" ++ String.intercalate "," (fields.map fun f => quoted f.1 ++ ":" ++ f.2) ++ "\x7d"

/-- Values between brackets. -/
def array (items : List String) : String :=
  "[" ++ String.intercalate "," items ++ "]"

def optional {α : Type} (text : α → String) : Option α → String
  | none => "null"
  | some a => text a

def controllerText (s : ControllerStatus) : String :=
  object [("id", s.id.text), ("name", quoted s.name.text), ("kind", toString s.kind.toNat)]

def actuatorText (s : ActuatorStatus) : String :=
  object [("id", s.id.text), ("name", quoted s.name.text), ("kind", toString s.kind.toNat),
    ("controller", s.controller.text), ("on", if s.on then "true" else "false"),
    ("pwm", optional levelLayout.write s.pwm)]

def sensorText (s : SensorStatus) : String :=
  object [("id", s.id.text), ("name", quoted s.name.text), ("kind", toString s.kind.toNat),
    ("value", optional valueLayout.write s.value)]

/-- The status in JSON. -/
def json (s : Status) : String :=
  object [("cycle", toString s.cycle),
    ("controllers", array (s.controllers.map controllerText)),
    ("actuators", array (s.actuators.map actuatorText)),
    ("sensors", array (s.sensors.map sensorText))]

end Status

end AquariumControl
