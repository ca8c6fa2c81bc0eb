import AquariumControl.Aquarium.Cycle

/-!
# The scheduler

The scheduler decides when a control cycle is run and when samples are sent; what happens in a
cycle does not depend on it.  It is asked once per pass of the main loop (`step`).

* In polling mode every pass runs a cycle, in timer mode only one after a tick of the hardware
  timer.  Ticks that come before they are noticed count as one (`TickSignal`).
* Samples are offered to the uplink after a cycle, when telemetry is enabled and its interval has
  passed since the last time.  Only a batch that the uplink accepts leaves the buffer.
-/

set_option autoImplicit false

namespace AquariumControl

/-- Whether the hardware timer has ticked since this was last noticed. -/
structure TickSignal where
  pending : Bool
deriving DecidableEq

namespace TickSignal

def idle : TickSignal := ⟨false⟩

def raised : TickSignal := ⟨true⟩

end TickSignal

/-- The mode, the telemetry settings, and when samples were last offered. -/
structure Scheduler where
  mode : SchedulingMode
  telemetryEnabled : Bool
  telemetryIntervalMs : UInt64
  lastFlush : UInt64
deriving DecidableEq

/-- What the uplink answers to a batch. -/
abbrev Uplink := List Sample → Except TelemetryError Unit

/-- What a pass of the main loop acts on besides the scheduler. -/
structure Loop (ρ δ σ : Type) where
  scheduler : Scheduler
  tick : TickSignal
  aquarium : Aquarium ρ δ σ

namespace Scheduler

def ofConfig (c : SystemConfig) : Scheduler where
  mode := c.mode
  telemetryEnabled := c.telemetryEnabled
  telemetryIntervalMs := UInt64.ofNat (c.telemetryIntervalSecs.toNat * 1000)
  lastFlush := 0

/-- Whether a cycle is due, and the signal after it was asked. -/
def poll (mode : SchedulingMode) (tick : TickSignal) : Bool × TickSignal :=
  match mode with
  | .polling => (true, tick)
  | .timer => (tick.pending, TickSignal.idle)

/-- Whether the telemetry interval has passed at uptime `now`, modulo `2 ^ 64` milliseconds. -/
def flushDue (s : Scheduler) (now : UInt64) : Bool :=
  s.telemetryEnabled && decide (s.telemetryIntervalMs ≤ now - s.lastFlush)

/-- What is reported of a finished cycle. -/
def cycleReport (r : CycleReport) : Journal :=
  .notice (.cycleFinished r.counts) ::
    ((r.failures.map fun f => .event (.sensorReadFailed f.1 f.2)) ++
      (r.switches.map fun s => .event (.actuatorSwitched s)))

variable {ρ δ σ : Type}

/-- Reports that the main loop is about to start. -/
def start (s : Scheduler) (a : Aquarium ρ δ σ) : Journal :=
  [.notice (.schedulerStarted s.mode),
    .event (.started s.mode a.controllers.size a.actuators.size a.sensors.size)]

/-- Offers all waiting samples to the uplink, if there are any. -/
def flush (s : Scheduler) (a : Aquarium ρ δ σ) (now : UInt64) (uplink : Uplink) :
    Outcome (Scheduler × Aquarium ρ δ σ) Unit :=
  let s' := { s with lastFlush := now }
  let batch := a.telemetry
  if batch.isEmpty then
    ⟨(), (s', a), []⟩
  else
    match uplink batch with
    | .ok () =>
      ⟨(), (s', a.discardTelemetry batch.length),
        [.offer batch (.ok ()), .event (.telemetryFlushed batch.length)]⟩
    | .error e =>
      ⟨(), (s', a),
        [.offer batch (.error e), .notice (.telemetryRefused e batch.length),
          .event (.telemetryFailed e)]⟩

variable [Rule ρ] [Actuator δ] [Sensor σ]

/-- One pass of the main loop.  The answer is the report of the cycle, if one was run. -/
def step (l : Loop ρ δ σ) (now : UInt64) (time : Option TimeOfDay) (uplink : Uplink) :
    Outcome (Loop ρ δ σ) (Option CycleReport) :=
  let (due, tick) := poll l.scheduler.mode l.tick
  if due then
    let cycle := l.aquarium.runCycle now time
    let journal := cycle.journal ++ cycleReport cycle.answer
    if l.scheduler.flushDue now then
      let flushed := l.scheduler.flush cycle.state now uplink
      ⟨some cycle.answer, ⟨flushed.state.1, tick, flushed.state.2⟩, journal ++ flushed.journal⟩
    else
      ⟨some cycle.answer, ⟨l.scheduler, tick, cycle.state⟩, journal⟩
  else
    ⟨none, { l with tick := tick }, []⟩

end Scheduler

end AquariumControl
