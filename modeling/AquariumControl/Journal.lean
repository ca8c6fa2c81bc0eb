import AquariumControl.Binary
import AquariumControl.Config
import AquariumControl.Name

/-!
# What the program reports

Operations do not print.  They return, beside their answer, a `Journal`: everything they reported
on the way, in order.  An entry is

* a `Notice`, a line for the log with a level and a text,
* an `Event`, which other parts of the system may act on and which has a log line as well, or
* an `offer`, a batch of samples handed to the uplink together with the uplink's answer.

Notices and events are held as what happened, with the wording in `Notice.line` and `Event.line`.
-/

set_option autoImplicit false

namespace AquariumControl

/-- How much attention a log line asks for. -/
inductive Level
  | debug
  | info
  | warn
deriving DecidableEq

/-- A line of the log. -/
structure LogLine where
  level : Level
  text : String
deriving DecidableEq

/-- A change of an actuator's output made by a controller. -/
structure Switch where
  actuator : SlotId
  controller : SlotId
  on : Bool
deriving DecidableEq

/-- One reading with the uptime in milliseconds at which it was taken. -/
structure Sample where
  sensor : SlotId
  value : Binary64
  uptime : UInt64
deriving DecidableEq

/-- The counts of a bulk save or restore. -/
structure Tally where
  applied : Nat
  notFound : Nat
  mismatched : Nat
  failed : Nat
deriving DecidableEq

def Tally.zero : Tally := ⟨0, 0, 0, 0⟩

/-- A count that is kept in 64 bits reads as a number. -/
instance coeCount : Coe UInt64 Nat := ⟨UInt64.toNat⟩

/-- The numbers of a finished cycle that its log line gives. -/
structure CycleCounts where
  cycle : UInt64
  sensorsRead : Nat
  run : Nat
  skipped : Nat
  latched : Nat
  switches : Nat
deriving DecidableEq

/-! ## Notices -/

/-- What is worth a line in the log. -/
inductive Notice
  | slotOccupied (index : SlotId)
  | slotFreed (index : SlotId)
  | registryFull (tag : Tag) (name : String)
  | registered (label : Label) (name : Name)
  | removed (label : Label) (name : Name)
  | switched (label : Label) (name : Name) (on : Bool)
  | notOwned (label : Label) (controller : SlotId)
  | actuatorFailed (label : Label) (name : Name) (error : ActuatorError)
  | sensorFailed (label : Label) (name : Name) (error : SensorError)
  | refillTimedOut (seconds : UInt16)
  | recordWritten (key : String) (size : Nat)
  | typeMismatch (key : Label) (stored live : UInt8)
  | notSystemRecord
  | fileWritten (path : String) (size : Nat)
  | fileRefused (error : FileError)
  | writingFailed (key : Label) (fault : Fault)
  | readingFailed (key : Label) (fault : Fault)
  | saved (tally : Tally)
  | restored (tally : Tally)
  | schedulerStarted (mode : SchedulingMode)
  | cycleFinished (counts : CycleCounts)
  | telemetryRefused (error : TelemetryError) (kept : Nat)
  | telemetryLine (text : String)
  | converterSimulated (channels : Nat)
  | timerSimulated (periodMs : Nat)
deriving DecidableEq

/-- The word for an output state. -/
def onOff (on : Bool) : String :=
  if on then "ON" else "OFF"

/-- A byte as two hexadecimal digits, from a given set of sixteen. -/
def hexByte (digits : List Char) (b : UInt8) : String :=
  String.ofList [digits.getD (b.toNat / 16) '0', digits.getD (b.toNat % 16) '0']

def lowerHex : List Char := "0123456789abcdef".toList

def upperHex : List Char := "0123456789ABCDEF".toList

namespace Notice

def level : Notice → Level
  | .slotOccupied _ | .slotFreed _ | .notOwned _ _ | .recordWritten _ _ | .cycleFinished _
  | .fileWritten _ _ => .debug
  | .registered _ _ | .removed _ _ | .switched _ _ _ | .saved _ | .restored _
  | .schedulerStarted _ | .telemetryLine _ | .converterSimulated _ | .timerSimulated _ => .info
  | .registryFull _ _ | .actuatorFailed _ _ _ | .sensorFailed _ _ _ | .refillTimedOut _
  | .typeMismatch _ _ _ | .notSystemRecord | .writingFailed _ _ | .readingFailed _ _
  | .telemetryRefused _ _ | .fileRefused _ => .warn

def text : Notice → String
  | .slotOccupied id => "Registry: occupied slot " ++ id.text
  | .slotFreed id => "Registry: freed slot " ++ id.text
  | .registryFull tag name => tag.word ++ " registry full; '" ++ name ++ "' not added"
  | .registered label name => s!"{label.tag.word} {label.text} ({name.text}) registered"
  | .removed label name => s!"{label.tag.word} {label.text} ({name.text}) removed"
  | .switched label name on => s!"{label.text} ({name.text}) -> " ++ onOff on
  | .notOwned label controller =>
    s!"{label.text} is not assigned to C{controller.text}; command ignored"
  | .actuatorFailed label name e => s!"{label.text} ({name.text}): {e.message}"
  | .sensorFailed label name e => s!"Sensor {label.text} ({name.text}): {e.message}"
  | .refillTimedOut seconds => s!"Refill timed out after {seconds.toNat} s; reservoir empty?"
  | .recordWritten key size => s!"Config: wrote {key} ({size} bytes)"
  | .typeMismatch key stored live =>
    s!"Config: {key.text} holds type 0x" ++ hexByte lowerHex stored ++ ", live object is 0x" ++
      hexByte lowerHex live ++ "; keeping defaults"
  | .notSystemRecord => "Config: aqua is not a system record; using defaults"
  | .fileWritten path size => s!"SD: wrote {size} bytes to {path}"
  | .fileRefused e => "SD: " ++ e.message
  | .writingFailed key fault => s!"Config: writing {key.text} failed: {fault.message}"
  | .readingFailed key fault => s!"Config: reading {key.text} failed: {fault.message}"
  | .saved t => s!"Config: saved {t.applied} records ({t.failed} failed)"
  | .restored t =>
    s!"Config: restored {t.applied} records ({t.notFound} missing, " ++
      s!"{t.mismatched} mismatched, {t.failed} failed)"
  | .schedulerStarted mode => s!"Scheduler started in {mode.word} mode"
  | .cycleFinished c =>
    s!"Cycle {c.cycle}: {c.sensorsRead} sensors, " ++
      s!"{c.run} run / {c.skipped} skipped / {c.latched} latched, {c.switches} switches"
  | .telemetryRefused e kept => s!"Telemetry: {e.message} ({kept} samples kept)"
  | .telemetryLine samples => "TELEM |" ++ samples
  | .converterSimulated channels => s!"adc(sim): {channels} channels, no converter"
  | .timerSimulated period =>
    s!"hw_timer(sim): {period} ms timer not started (raise CONTROL_TICK manually)"

def line (n : Notice) : LogLine :=
  ⟨n.level, n.text⟩

end Notice

/-! ## Events -/

/-- What other parts of the system are told about. -/
inductive Event
  /-- The main loop is about to start. -/
  | started (mode : SchedulingMode) (controllers actuators sensors : Nat)
  /-- A registry was full and the object was not added. -/
  | capacityExhausted (tag : Tag) (name : Name)
  /-- A stored record was applied to an object. -/
  | configRestored (key : Label)
  /-- A stored record belongs to another kind of object. -/
  | configTypeMismatch (key : Label) (stored live : UInt8)
  /-- A record was written. -/
  | configSaved (key : Label)
  /-- A record could not be read, decoded or written. -/
  | configFailed (key : Label)
  /-- A controller changed an output. -/
  | actuatorSwitched (switch : Switch)
  /-- A sensor gave no reading. -/
  | sensorReadFailed (sensor : SlotId) (error : SensorError)
  /-- The uplink took a batch. -/
  | telemetryFlushed (samples : Nat)
  /-- The uplink refused a batch. -/
  | telemetryFailed (error : TelemetryError)
deriving DecidableEq

namespace Event

def level : Event → Level
  | .started _ _ _ _ | .configRestored _ | .configSaved _ | .actuatorSwitched _
  | .telemetryFlushed _ => .info
  | .capacityExhausted _ _ | .configTypeMismatch _ _ _ | .configFailed _ | .sensorReadFailed _ _
  | .telemetryFailed _ => .warn

def text : Event → String
  | .started mode controllers actuators sensors =>
    s!"START | mode={mode.word} | " ++
      s!"controllers={controllers} actuators={actuators} sensors={sensors}"
  | .capacityExhausted tag name => s!"SLOTS | {tag.word} registry full, '{name.text}' not added"
  | .configRestored key => s!"CONFIG | {key.text} restored"
  | .configTypeMismatch key stored live =>
    s!"CONFIG | {key.text} type mismatch (stored=0x" ++ hexByte upperHex stored ++ " live=0x" ++
      hexByte upperHex live ++ "), defaults kept"
  | .configSaved key => s!"CONFIG | {key.text} saved"
  | .configFailed key => s!"CONFIG | {key.text} failed"
  | .actuatorSwitched s =>
    s!"ACT | A{s.actuator.text} -> " ++ onOff s.on ++ s!" (by C{s.controller.text})"
  | .sensorReadFailed sensor e => s!"SENSOR | S{sensor.text} read failed: {e.message}"
  | .telemetryFlushed samples => s!"TELEM | flushed {samples} samples"
  | .telemetryFailed e => s!"TELEM | flush failed: {e.message}"

def line (e : Event) : LogLine :=
  ⟨e.level, e.text⟩

end Event

/-! ## Journals -/

/-- One thing that was reported. -/
inductive Entry
  | notice (n : Notice)
  | event (e : Event)
  /-- A batch was handed to the uplink, which answered. -/
  | offer (batch : List Sample) (answer : Except TelemetryError Unit)

/-- Everything an operation reported, in order. -/
abbrev Journal := List Entry

/-- What an operation leaves behind: its answer, the new state, and what it reported. -/
structure Outcome (σ α : Type) where
  answer : α
  state : σ
  journal : Journal

namespace Outcome

variable {σ σ' α β : Type}

/-- The same outcome with another answer. -/
def map (f : α → β) (o : Outcome σ α) : Outcome σ β :=
  ⟨f o.answer, o.state, o.journal⟩

/-- The same outcome for something that the state is a part of. -/
def lift (f : σ → σ') (o : Outcome σ α) : Outcome σ' α :=
  ⟨o.answer, f o.state, o.journal⟩

end Outcome

end AquariumControl
