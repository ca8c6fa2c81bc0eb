import AquariumControl.Bench.Probe
import AquariumControl.Bench.Relay
import AquariumControl.Bench.Script
import AquariumControl.Device.Contact
import AquariumControl.Device.Dimmer
import AquariumControl.Device.Outlet
import AquariumControl.Device.Thermistor
import AquariumControl.Rule.Standard

/-!
# The bench kit

Everything that can be put into an aquarium on the bench, as one type each for rules, outputs and
sensors: what the program brings along, and the stand-ins for it.  The stand-ins can be changed
from outside while they are registered (`AnyOutput.rewire`, `AnySensor.expose`), as can the lines
behind the real drivers.
-/

set_option autoImplicit false

namespace AquariumControl

/-! ## Rules -/

inductive AnyRule
  | standard (r : StandardRule)
  | script (r : Script)

namespace AnyRule

def run (rule : AnyRule) (s : Situation) : Command (RunStatus × AnyRule) :=
  match rule with
  | .standard r => do
    let (status, r') ← r.run s
    pure (status, .standard r')
  | .script r => do
    let (status, r') ← r.run s
    pure (status, .script r')

def load (rule : AnyRule) (bytes : List UInt8) : Except CodecError (AnyRule × Nat) :=
  match rule with
  | .standard r => (r.load bytes).map fun (r', used) => (.standard r', used)
  | .script r => (r.load bytes).map fun (r', used) => (.script r', used)

instance : Rule AnyRule where
  kind
    | .standard r => r.kind
    | .script r => Rule.kind r
  run := AnyRule.run
  save
    | .standard r => r.save
    | .script r => r.save
  load := AnyRule.load
  reset
    | .standard r => .standard r.reset
    | .script r => .script r

/-- A new rule of the same kind. -/
def renewed : AnyRule → AnyRule
  | .standard (.thermostat _) => .standard (.thermostat Thermostat.default)
  | .standard (.topUp _) => .standard (.topUp TopUp.default)
  | .standard (.schedule _) => .standard (.schedule Schedule.default)
  | .script _ => .script Script.default

/-- What a script has heard, and the rule after that was collected. -/
def collect : AnyRule → List (SlotId × List ScriptAnswer) × AnyRule
  | .standard r => ([], .standard r)
  | .script r => (r.heard, .script { r with heard := [] })

end AnyRule

/-! ## Outputs -/

inductive AnyOutput
  | outlet (o : Outlet)
  | dimmer (d : Dimmer)
  | relay (r : Relay)

namespace AnyOutput

def drive (output : AnyOutput) (on : Bool) : Except ActuatorError Unit × AnyOutput :=
  match output with
  | .outlet o => let (answer, o') := o.drive on; (answer, .outlet o')
  | .dimmer d => let (answer, d') := d.drive on; (answer, .dimmer d')
  | .relay r => let (answer, r') := r.drive on; (answer, .relay r')

def setPwm (output : AnyOutput) (duty : Binary32) : Except ActuatorError Unit × AnyOutput :=
  match output with
  | .outlet o => let (answer, o') := Actuator.setPwm o duty; (answer, .outlet o')
  | .dimmer d => let (answer, d') := Actuator.setPwm d duty; (answer, .dimmer d')
  | .relay r => let (answer, r') := Actuator.setPwm r duty; (answer, .relay r')

def load (output : AnyOutput) (bytes : List UInt8) : Except CodecError (AnyOutput × Nat) :=
  match output with
  | .outlet o => (Actuator.load o bytes).map fun (o', used) => (.outlet o', used)
  | .dimmer d => (Actuator.load d bytes).map fun (d', used) => (.dimmer d', used)
  | .relay r => (Actuator.load r bytes).map fun (r', used) => (.relay r', used)

instance : Actuator AnyOutput where
  kind
    | .outlet o => Actuator.kind o
    | .dimmer d => Actuator.kind d
    | .relay r => Actuator.kind r
  isOn
    | .outlet o => Actuator.isOn o
    | .dimmer d => Actuator.isOn d
    | .relay r => Actuator.isOn r
  drive := AnyOutput.drive
  supportsPwm
    | .outlet o => Actuator.supportsPwm o
    | .dimmer d => Actuator.supportsPwm d
    | .relay r => Actuator.supportsPwm r
  setPwm := AnyOutput.setPwm
  pwm
    | .outlet o => Actuator.pwm o
    | .dimmer d => Actuator.pwm d
    | .relay r => Actuator.pwm r
  save
    | .outlet o => Actuator.save o
    | .dimmer d => Actuator.save d
    | .relay r => Actuator.save r
  load := AnyOutput.load

/-- The line behind an output, if there is one. -/
def line? : AnyOutput → Option Line
  | .outlet o => some o.line
  | .dimmer d => some d.line
  | .relay _ => none

/-- Changes what is behind an output: whether its line fails, or which commands a relay refuses
and which state it is in. -/
def rewire (failing : Option Bool) (mode : Option FailureMode) (on : Option Bool) :
    AnyOutput → AnyOutput
  | .outlet o => .outlet { o with line.failing := failing.getD o.line.failing }
  | .dimmer d => .dimmer { d with line.failing := failing.getD d.line.failing }
  | .relay r => .relay ⟨on.getD r.on, mode.getD r.failure⟩

/-- Changes the line behind an output. -/
def mapLine (f : Line → Line) : AnyOutput → AnyOutput
  | .outlet o => .outlet { o with line := f o.line }
  | .dimmer d => .dimmer { d with line := f d.line }
  | .relay r => .relay r

end AnyOutput

/-! ## Sensors -/

inductive AnySensor
  | contact (c : Contact)
  | thermistor (t : Thermistor)
  | probe (p : Probe)

/-- What happens in front of a sensor.  Each kind of sensor takes from it what it can feel. -/
structure Stimulus where
  /-- What a probe is to answer. -/
  value : Option Binary64
  /-- What a converter is to give. -/
  sample : Option UInt16
  /-- How a probe or a converter fails. -/
  error : Option SensorError
  /-- The level at the pin, unless it stays as it is. -/
  high : Option Bool
  /-- Whether the pin fails. -/
  failing : Bool

/-- The answer of a source after a stimulus.  A failure hides a value that comes with it; without
either the answer stays. -/
def Stimulus.renew {α : Type} (s : Stimulus) (given : Option α) (answer : Except SensorError α) :
    Except SensorError α :=
  match s.error, given with
  | some e, _ => .error e
  | none, some a => .ok a
  | none, none => answer

namespace AnySensor

def read (sensor : AnySensor) : Except SensorError Binary64 × AnySensor :=
  match sensor with
  | .contact c => let (answer, c') := c.read; (answer, .contact c')
  | .thermistor t => let (answer, t') := t.read; (answer, .thermistor t')
  | .probe p => let (answer, p') := Sensor.read p; (answer, .probe p')

def load (sensor : AnySensor) (bytes : List UInt8) : Except CodecError (AnySensor × Nat) :=
  match sensor with
  | .contact c => (Sensor.load c bytes).map fun (c', used) => (.contact c', used)
  | .thermistor t => (Sensor.load t bytes).map fun (t', used) => (.thermistor t', used)
  | .probe p => (Sensor.load p bytes).map fun (p', used) => (.probe p', used)

instance : Sensor AnySensor where
  kind
    | .contact c => Sensor.kind c
    | .thermistor t => Sensor.kind t
    | .probe p => Sensor.kind p
  read := AnySensor.read
  save
    | .contact c => Sensor.save c
    | .thermistor t => Sensor.save t
    | .probe p => Sensor.save p
  load := AnySensor.load

/-- Exposes a sensor to a stimulus.  The board's own converter feels none. -/
def expose (s : Stimulus) : AnySensor → AnySensor
  | .probe p => .probe ⟨s.renew s.value p.answer⟩
  | .thermistor t =>
    match t.converter with
    | .fixed answer => .thermistor { t with converter := .fixed (s.renew s.sample answer) }
    | .channel _ => .thermistor t
  | .contact c =>
    .contact { c with line := { c.line with high := s.high.getD c.line.high, failing := s.failing } }

end AnySensor

end AquariumControl
