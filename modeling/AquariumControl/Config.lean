import AquariumControl.Error

/-!
# System configuration

How often the control loop runs and how often readings are sent, and the ranges in which these
settings make sense.
-/

set_option autoImplicit false

namespace AquariumControl

/-- What starts a control cycle: every pass of the main loop, or a tick of the hardware timer. -/
inductive SchedulingMode
  | polling
  | timer
deriving DecidableEq

def SchedulingMode.word : SchedulingMode → String
  | .polling => "Polling"
  | .timer => "Timer"

/-- The settings of the main loop. -/
structure SystemConfig where
  /-- What starts a cycle. -/
  mode : SchedulingMode
  /-- The period of the hardware timer in milliseconds. -/
  controlIntervalMs : UInt32
  /-- Whether readings are sent at all. -/
  telemetryEnabled : Bool
  /-- The least time between two transmissions in seconds. -/
  telemetryIntervalSecs : UInt32
deriving DecidableEq

namespace SystemConfig

/-- A cycle per second, no telemetry, and a minute between transmissions once it is enabled. -/
def default : SystemConfig where
  mode := .timer
  controlIntervalMs := 1000
  telemetryEnabled := false
  telemetryIntervalSecs := 60

/-- The rule a configuration breaks first, if any. -/
def problem? (c : SystemConfig) : Option String :=
  if c.controlIntervalMs.toNat < 100 ∨ 60000 < c.controlIntervalMs.toNat then
    some "control_interval_ms must be 100–60000"
  else if c.telemetryIntervalSecs.toNat < 5 ∨ 3600 < c.telemetryIntervalSecs.toNat then
    some "telemetry_interval_secs must be 5–3600"
  else if c.telemetryIntervalSecs.toNat * 1000 < c.controlIntervalMs.toNat then
    some "control_interval_ms must not exceed the telemetry interval"
  else
    none

/-- Accepts a configuration that breaks no rule. -/
def validate (c : SystemConfig) : Except ConfigError Unit :=
  match c.problem? with
  | none => .ok ()
  | some reason => .error (.validationFailed reason)

end SystemConfig

end AquariumControl
