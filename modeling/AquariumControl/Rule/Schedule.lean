import AquariumControl.Rule.Command

/-!
# Schedules

A schedule switches actuators by the time of day.  It has four timers; each drives one actuator
through up to four daily windows, on the weekdays it is set to.

A window `[start, stop)` is an arc of the daily circle of 1440 minutes: it may lie across midnight,
and it is empty if both ends are the same.
-/

set_option autoImplicit false

namespace AquariumControl

/-- Minutes in a day. -/
def minutesPerDay : Nat := 1440

/-- The minutes from `start` up to, but not including, `stop`. -/
structure TimeWindow where
  start : Fin minutesPerDay
  stop : Fin minutesPerDay
deriving DecidableEq

namespace TimeWindow

def empty : TimeWindow := ⟨⟨0, by decide⟩, ⟨0, by decide⟩⟩

/-- The minute of the day of a clock time, if it is one. -/
def minute? (hour minute : Nat) : Option (Fin minutesPerDay) :=
  if h : hour < 24 ∧ minute < 60 then
    some ⟨hour * 60 + minute, by unfold minutesPerDay; omega⟩
  else
    none

/-- The window between two clock times. -/
def ofClock? (startHour startMinute stopHour stopMinute : Nat) : Option TimeWindow := do
  let start ← minute? startHour startMinute
  let stop ← minute? stopHour stopMinute
  pure ⟨start, stop⟩

def isEmpty (w : TimeWindow) : Bool :=
  w.start == w.stop

def contains (w : TimeWindow) (minute : Nat) : Bool :=
  if w.start.val ≤ w.stop.val then
    decide (w.start.val ≤ minute ∧ minute < w.stop.val)
  else
    decide (w.start.val ≤ minute ∨ minute < w.stop.val)

end TimeWindow

/-! ## Timers -/

/-- How many windows a timer has. -/
abbrev windowsPerTimer : Nat := 4

/-- How many timers a schedule has. -/
abbrev timersPerSchedule : Nat := 4

/-- A timer for one actuator. -/
structure Timer where
  actuator : SlotId
  /-- A set of weekdays: bit 0 is Monday, bit 6 Sunday. -/
  weekdays : Fin 128
  windows : Vector TimeWindow windowsPerTimer
  /-- What the last evaluation wanted. -/
  active : Bool
deriving DecidableEq

namespace Timer

/-- Every day, but at no time. -/
def default : Timer where
  actuator := .unassigned
  weekdays := 127
  windows := Vector.replicate windowsPerTimer TimeWindow.empty
  active := false

/-- Selects weekdays; the eighth bit of the mask means nothing. -/
def setWeekdays (t : Timer) (mask : UInt8) : Timer :=
  { t with weekdays := ⟨mask.toNat % 128, Nat.mod_lt _ (by decide)⟩ }

/-- Replaces one window; answers whether there is such a window. -/
def setWindow (t : Timer) (index : Nat) (w : TimeWindow) : Bool × Timer :=
  if h : index < windowsPerTimer then
    (true, { t with windows := t.windows.set index w h })
  else
    (false, t)

/-- Whether the actuator should be on. -/
def wantsOn (t : Timer) (now : TimeOfDay) : Bool :=
  t.weekdays.val.testBit now.weekday && t.windows.any fun w => w.contains now.minuteOfDay

end Timer

/-- Changes to a timer: an actuator, a set of weekdays, and windows given by their index and the
hours and minutes of their ends. -/
structure TimerSettings where
  actuator : Option SlotId
  weekdays : Option UInt8
  windows : List (Nat × Nat × Nat × Nat × Nat)

namespace Timer

/-- Sets a window by clock times; `none` if they are not times of day, otherwise whether there is
such a window. -/
def setClockWindow (t : Timer) :
    Nat × Nat × Nat × Nat × Nat → Option Bool × Timer
  | (index, startHour, startMinute, stopHour, stopMinute) =>
    match TimeWindow.ofClock? startHour startMinute stopHour stopMinute with
    | none => (none, t)
    | some w =>
      let (done, t') := t.setWindow index w
      (some done, t')

/-- Makes all changes, the windows one after the other; the answers are those for the windows. -/
def configure (t : Timer) (c : TimerSettings) : List (Option Bool) × Timer :=
  let t := { t with actuator := c.actuator.getD t.actuator }
  let t := match c.weekdays with
    | none => t
    | some mask => t.setWeekdays mask
  c.windows.foldl
    (fun (answers, t) w =>
      let (answer, t') := t.setClockWindow w
      (answers ++ [answer], t'))
    ([], t)

end Timer

/-! ## Schedules -/

/-- A timer, and whether what it wants has been applied to the actuator since the timer was last
changed, restored or reset. -/
structure Channel where
  timer : Timer
  applied : Bool
deriving DecidableEq

/-- Four timers. -/
structure Schedule where
  channels : Vector Channel timersPerSchedule
deriving DecidableEq

namespace Schedule

def default : Schedule :=
  ⟨Vector.replicate timersPerSchedule ⟨Timer.default, false⟩⟩

def timer? (s : Schedule) (index : Nat) : Option Timer :=
  s.channels[index]?.map Channel.timer

/-- Changes a timer, which then counts as not applied; the answer is that of the change, or
`none` if there is no such timer. -/
def changeTimer {α : Type} (s : Schedule) (index : Nat) (change : Timer → α × Timer) :
    Option α × Schedule :=
  if h : index < timersPerSchedule then
    let (answer, t) := change (s.channels[index].timer)
    (some answer, ⟨s.channels.set index ⟨t, false⟩ h⟩)
  else
    (none, s)

end Schedule

/-- Switches the actuator if the timer's wish has changed or was never applied.  A timer whose
actuator is not this controller's stays as it is. -/
def Channel.run (now : TimeOfDay) (c : Channel) : Command Channel := do
  let owned ← Command.owns c.timer.actuator
  if owned then
    let want := c.timer.wantsOn now
    if want ≠ c.timer.active ∨ c.applied = false then
      let ok ← Command.switch c.timer.actuator want
      pure ⟨{ c.timer with active := want }, ok⟩
    else
      pure c
  else
    pure c

namespace Schedule

/-- Runs the timers one after the other, unless the clock is not set. -/
def run (s : Schedule) (situation : Situation) : Command (RunStatus × Schedule) :=
  match situation.timeOfDay with
  | none => pure (.skipped, s)
  | some now => do
    let channels ← s.channels.mapM (Channel.run now)
    pure (.ran, ⟨channels⟩)

/-- Every timer wants its actuator off until it is evaluated again. -/
def reset (s : Schedule) : Schedule :=
  ⟨s.channels.map fun c => ⟨{ c.timer with active := false }, false⟩⟩

end Schedule

/-! ## The stored form -/

/-- A timer as it is stored, before it is known to make sense. -/
structure StoredTimer where
  actuator : SlotId
  weekdays : UInt8
  windows : Vector (UInt16 × UInt16) windowsPerTimer
  active : Bool
deriving DecidableEq

namespace StoredTimer

/-- Only seven weekdays, and windows within a day. -/
def isValid (t : StoredTimer) : Bool :=
  decide (t.weekdays.toNat < 128) &&
    t.windows.all fun w =>
      decide (w.1.toNat < minutesPerDay) && decide (w.2.toNat < minutesPerDay)

/-- The timer that valid bytes describe. -/
def timer (t : StoredTimer) : Timer where
  actuator := t.actuator
  weekdays := ⟨t.weekdays.toNat % 128, Nat.mod_lt _ (by decide)⟩
  windows := t.windows.map fun w =>
    ⟨⟨w.1.toNat % minutesPerDay, Nat.mod_lt _ (by decide)⟩,
     ⟨w.2.toNat % minutesPerDay, Nat.mod_lt _ (by decide)⟩⟩
  active := t.active

def ofTimer (t : Timer) : StoredTimer where
  actuator := t.actuator
  weekdays := UInt8.ofNat t.weekdays.val
  windows := t.windows.map fun w => (UInt16.ofNat w.start.val, UInt16.ofNat w.stop.val)
  active := t.active

def encode (t : StoredTimer) : List UInt8 :=
  Wire.writeSlotId t.actuator ++ [t.weekdays] ++
    t.windows.toList.flatMap (fun w => Wire.writeUInt16 w.1 ++ Wire.writeUInt16 w.2) ++
    Wire.writeBool t.active

def readWindow : Reader (UInt16 × UInt16) := do
  let start ← Wire.readUInt16
  let stop ← Wire.readUInt16
  pure (start, stop)

def read : Reader StoredTimer := do
  let actuator ← Wire.readSlotId
  let weekdays ← Wire.readByte
  let windows ← Wire.readVector readWindow windowsPerTimer
  let active ← Wire.readBool
  pure ⟨actuator, weekdays, windows, active⟩

end StoredTimer

namespace Schedule

def encode (s : Schedule) : List UInt8 :=
  s.channels.toList.flatMap fun c => (StoredTimer.ofTimer c.timer).encode

/-- Takes all timers from bytes; all of them must be valid. -/
def load (bytes : List UInt8) : Except CodecError (Schedule × Nat) :=
  match Reader.decode (Wire.readVector StoredTimer.read timersPerSchedule) bytes with
  | .error e => .error e
  | .ok (timers, used) =>
    if timers.all StoredTimer.isValid then
      .ok (⟨timers.map fun t => ⟨t.timer, false⟩⟩, used)
    else
      .error .invalid

instance : Rule Schedule where
  kind := fun _ => .schedule
  run := Schedule.run
  save := fun s capacity => Block.fit capacity s.encode
  load := fun _ bytes => Schedule.load bytes
  reset := Schedule.reset

end Schedule

end AquariumControl
