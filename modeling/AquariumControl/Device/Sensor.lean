import AquariumControl.Journal
import AquariumControl.Registry
import AquariumControl.Wire

/-!
# Sensors and readings

What gives a number once per cycle.  `Sensor` is what a driver must provide, `SensorSlot` is a
driver in its place in the registry, and `Readings` is the table of the latest good values: a
reading that fails leaves the previous value of its place as it was.
-/

set_option autoImplicit false

namespace AquariumControl

/-- The most sensors that can be registered. -/
def sensorCapacity : Nat := 8

/-- The kinds of sensor a record can describe. -/
inductive SensorKind
  | contact
  | thermistor
  | custom
deriving DecidableEq

/-- The stored form of the kind. -/
def SensorKind.tag : SensorKind → UInt8
  | .contact => 1
  | .thermistor => 2
  | .custom => 0xF0

/-- A driver that takes readings.  A driver with nothing to store needs only the first two
fields. -/
class Sensor (σ : Type) where
  kind : σ → SensorKind
  /-- Takes one reading. -/
  read : σ → Except SensorError Binary64 × σ
  /-- Writes the parameters into a buffer of the given capacity. -/
  save : σ → Nat → Except CodecError Block := fun _ _ => .ok .empty
  /-- Takes parameters from bytes; says how many it used. -/
  load : σ → List UInt8 → Except CodecError (σ × Nat) := fun d _ => .ok (d, 0)

/-- A sensor in the registry. -/
structure SensorSlot (σ : Type) where
  name : Name
  /-- The place it was labelled with; none before it is registered. -/
  place : SlotId
  device : σ

/-- All sensors. -/
abbrev Sensors (σ : Type) := Registry (SensorSlot σ) sensorCapacity

/-- No sensors. -/
def Sensors.empty {σ : Type} : Sensors σ := Registry.empty (by decide)

namespace SensorSlot

variable {σ : Type}

/-- A sensor that is not registered yet. -/
def fresh (name : String) (device : σ) : SensorSlot σ :=
  ⟨Name.ofString name, .unassigned, device⟩

def label (s : SensorSlot σ) : Label :=
  ⟨.sensor, s.place⟩

variable [Sensor σ]

def kind (s : SensorSlot σ) : SensorKind :=
  Sensor.kind s.device

/-- Takes one reading. -/
def read (s : SensorSlot σ) : Except SensorError Binary64 × SensorSlot σ :=
  let (answer, d) := Sensor.read s.device
  (answer, { s with device := d })

end SensorSlot

/-! ## The reading table -/

/-- The latest good value of every place, `none` where there has been none. -/
structure Readings where
  values : Vector (Option Binary64) sensorCapacity
deriving DecidableEq

namespace Readings

def empty : Readings :=
  ⟨Vector.replicate sensorCapacity none⟩

/-- The latest good value; `none` too for ids outside the table. -/
def get? (r : Readings) (id : SlotId) : Option Binary64 :=
  match id with
  | .unassigned => none
  | .slot i => r.values[i.val]?.join

/-- Replaces what is known of one place; ids outside the table are ignored. -/
def put (r : Readings) (id : SlotId) (value : Option Binary64) : Readings :=
  match id with
  | .unassigned => r
  | .slot i => ⟨r.values.setIfInBounds i.val value⟩

def set (r : Readings) (id : SlotId) (value : Binary64) : Readings :=
  r.put id (some value)

def clear (r : Readings) (id : SlotId) : Readings :=
  r.put id none

@[simp] theorem get?_empty (id : SlotId) : empty.get? id = none := by
  cases id with
  | unassigned => rfl
  | slot i =>
    simp only [get?, empty, Vector.getElem?_replicate]
    split <;> rfl

/-- A change at one place of the table leaves every other place alone. -/
theorem get?_put (r : Readings) (i j : Fin 128) (value : Option Binary64) :
    (r.put (.slot i) value).get? (.slot j) =
      if i = j ∧ i.val < sensorCapacity then value else r.get? (.slot j) := by
  by_cases hij : i = j
  · subst hij
    by_cases hi : i.val < sensorCapacity
    · simp [put, get?, hi]
    · simp [put, get?, hi]
  · have hne : i.val ≠ j.val := fun h => hij (Fin.ext h)
    simp [put, get?, hij, hne]

end Readings

/-! ## Reading all sensors -/

/-- What one pass over the sensors found. -/
structure Survey where
  readings : Readings
  /-- How many sensors gave a value. -/
  read : Nat
  /-- The sensors that did not, with the reasons. -/
  failures : List (SlotId × SensorError)
  journal : Journal

/-- Takes the reading of one sensor into account. -/
def Survey.take {σ : Type} [Sensor σ] (s : Survey) (id : SlotId) (slot : SensorSlot σ) :
    SensorSlot σ × Survey :=
  match slot.read with
  | (.ok value, slot') =>
    (slot', { s with readings := s.readings.set id value, read := s.read + 1 })
  | (.error e, slot') =>
    (slot', { s with
      failures := s.failures ++ [(id, e)]
      journal := s.journal ++ [.notice (.sensorFailed slot.label slot.name e)] })

/-- Reads every sensor once, in ascending order of their places. -/
def Sensors.survey {σ : Type} [Sensor σ] (sensors : Sensors σ) (readings : Readings) :
    Sensors σ × Survey :=
  sensors.mapAccum Survey.take ⟨readings, 0, [], []⟩

end AquariumControl
