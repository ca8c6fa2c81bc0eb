import AquariumControl.Aquarium.Basic

/-!
# Control cycles

One cycle reads every sensor and then runs every rule, both in ascending order of their places.
All rules of a cycle see the same readings and the same time.  A sensor that fails keeps its last
good value for the rules, but that value is not sent as a new sample.
-/

set_option autoImplicit false

namespace AquariumControl

/-- What happened in one cycle. -/
structure CycleReport where
  /-- The number of the cycle modulo `2 ^ 64`, the first being 1. -/
  cycle : UInt64
  sensorsRead : Nat
  failures : List (SlotId × SensorError)
  run : Nat
  skipped : Nat
  latched : Nat
  switches : List Switch
deriving DecidableEq

def CycleReport.counts (r : CycleReport) : CycleCounts :=
  ⟨r.cycle, r.sensorsRead, r.run, r.skipped, r.latched, r.switches.length⟩

/-- How the rules of a cycle ended. -/
structure RunCounts where
  run : Nat
  skipped : Nat
  latched : Nat
deriving DecidableEq

def RunCounts.add (c : RunCounts) : RunStatus → RunCounts
  | .ran => { c with run := c.run + 1 }
  | .skipped => { c with skipped := c.skipped + 1 }
  | .latched => { c with latched := c.latched + 1 }

namespace Aquarium

variable {ρ δ σ : Type}

/-- The samples of one cycle: the values of all sensors that have just been read. -/
def freshSamples (sensors : Sensors σ) (survey : Survey) (uptime : UInt64) : List Sample :=
  (Registry.entries sensors).filterMap fun e =>
    if survey.failures.any fun f => f.1 == e.1 then
      none
    else
      (survey.readings.get? e.1).map fun value => ⟨e.1, value, uptime⟩

variable [Rule ρ] [Actuator δ] [Sensor σ]

/-- Runs one rule on the plant and counts how it ended. -/
def runRule (readings : Readings) (uptime : UInt64) (time : Option TimeOfDay)
    (acc : Plant δ × RunCounts) (id : SlotId) (slot : ControllerSlot ρ) :
    ControllerSlot ρ × (Plant δ × RunCounts) :=
  let ((status, rule), plant) :=
    (Rule.run slot.rule ⟨id, readings, uptime, time⟩).perform id acc.1
  ({ slot with rule := rule }, (plant, acc.2.add status))

/-- Runs one cycle. -/
def runCycle (a : Aquarium ρ δ σ) (uptime : UInt64) (time : Option TimeOfDay) :
    Outcome (Aquarium ρ δ σ) CycleReport :=
  let (sensors, survey) := a.sensors.survey a.readings
  let samples := freshSamples sensors survey uptime
  let (controllers, plant, counts) :=
    a.controllers.mapAccum (runRule survey.readings uptime time)
      (⟨a.actuators, [], survey.journal⟩, ⟨0, 0, 0⟩)
  let report : CycleReport :=
    ⟨a.cycles + 1, survey.read, survey.failures, counts.run, counts.skipped, counts.latched,
      plant.switches⟩
  ⟨report,
    { controllers := controllers.exhaust
      actuators := plant.actuators
      sensors := sensors
      readings := survey.readings
      telemetry := samples.foldl Telemetry.push a.telemetry
      cycles := a.cycles + 1 },
    plant.journal⟩

end Aquarium

end AquariumControl
