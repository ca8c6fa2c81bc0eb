import AquariumControl.Device.Sensor
import AquariumControl.Proofs.Registry

/-!
# What a pass over the sensors leaves behind

Every sensor is read once, and what it gives is entered under its own place.  So the table after
the pass can be read off place by place (`Sensors.get?_readings_survey`), and it depends on the
drivers and the table before only (`Sensors.SameDrivers.survey`).
-/

set_option autoImplicit false

namespace AquariumControl

namespace Readings

theorem get?_set (r : Readings) {id : SlotId} {value : Binary64} {i : Fin 128}
    (hid : id = .slot i) (hi : i.val < sensorCapacity) (j : SlotId) :
    (r.set id value).get? j = if j = id then some value else r.get? j := by
  subst hid
  cases j with
  | unassigned => rfl
  | slot j =>
    rw [set, get?_put]
    simp only [SlotId.slot.injEq, hi, and_true, eq_comm]

theorem ext_get? {r r' : Readings} (h : ∀ id, r.get? id = r'.get? id) : r = r' := by
  obtain ⟨values⟩ := r
  obtain ⟨values'⟩ := r'
  congr 1
  refine Vector.ext fun i hi => ?_
  have hlt : i < 128 := Nat.lt_trans hi (by decide)
  have hget := h (.slot ⟨i, hlt⟩)
  simpa [get?, hi] using hget

end Readings

namespace Sensors

variable {σ : Type} [Sensor σ]

/-- What a pass over the sensors leaves in the table for a place: the value just read, or else the
one that was there. -/
def reading (sensors : Sensors σ) (readings : Readings) (id : SlotId) : Option Binary64 :=
  match (sensors.get? id).map fun s => (Sensor.read s.device).1 with
  | some (.ok value) => some value
  | _ => readings.get? id

theorem get?_take (survey : Survey) {id : SlotId} {i : Fin 128} (hid : id = .slot i)
    (hi : i.val < sensorCapacity) (slot : SensorSlot σ) (j : SlotId) :
    (survey.take id slot).2.readings.get? j =
      if j = id then
        match (Sensor.read slot.device).1 with
        | .ok value => some value
        | .error _ => survey.readings.get? j
      else survey.readings.get? j := by
  simp only [Survey.take, SensorSlot.read]
  rcases Sensor.read slot.device with ⟨e | value, d⟩
  · simp only [ite_self]
  · exact survey.readings.get?_set hid hi j

theorem get?_readings_survey (sensors : Sensors σ) (readings : Readings) (id : SlotId) :
    (sensors.survey readings).2.readings.get? id = sensors.reading readings id := by
  have hvisit : ∀ (j : SlotId) (slot : SensorSlot σ), sensors.get? j = some slot → ∃ i : Fin 128,
      j = .slot i ∧ i.val < sensorCapacity := by
    intro j slot hj
    cases j with
    | unassigned => cases hj
    | slot i => exact ⟨i, rfl, Registry.lt_capacity_of_get? hj⟩
  have hother : ∀ (j : SlotId) (slot : SensorSlot σ), sensors.get? j = some slot → j ≠ id →
      ∀ s : Survey, (s.take j slot).2.readings.get? id = s.readings.get? id := by
    intro j slot hj hne s
    obtain ⟨i, hi, hlt⟩ := hvisit j slot hj
    rw [get?_take s hi hlt, if_neg hne.symm]
  rw [reading]
  cases hid : sensors.get? id with
  | none =>
    refine Registry.mapAccum_induction (P := fun s : Survey =>
      s.readings.get? id = readings.get? id) sensors (fun j slot hj s hs => ?_) rfl
    have hne : j ≠ id := by
      rintro rfl
      rw [hid] at hj
      cases hj
    rw [hother j slot hj hne, hs]
  | some slot =>
    obtain ⟨i, hi, hlt⟩ := hvisit id slot hid
    obtain ⟨s, hs, -, hlast⟩ := Registry.mapAccum_at
      (R := fun s s' : Survey => s'.readings.get? id = s.readings.get? id) (fun _ => rfl)
      (fun _ _ _ h h' => h'.trans h) sensors hid hother ⟨readings, 0, [], []⟩
    rw [survey, hlast, get?_take s hi hlt, if_pos rfl, hs, Option.map_some]
    cases (Sensor.read slot.device).1 <;> rfl

theorem get?_survey (sensors : Sensors σ) (readings : Readings) (id : SlotId) :
    (sensors.survey readings).1.get? id = (sensors.get? id).map fun s => s.read.2 := by
  refine Registry.get?_mapAccum sensors (g := fun _ s => s.read.2) (fun s id slot => ?_) _ id
  rw [Survey.take]
  rcases slot.read with ⟨_ | _, slot'⟩ <;> rfl

/-- The same drivers in the same places. -/
def SameDrivers (x y : Sensors σ) : Prop :=
  ∀ id, (y.get? id).map SensorSlot.device = (x.get? id).map SensorSlot.device

/-- The same drivers give the same readings, and are the same afterwards. -/
theorem SameDrivers.survey {x y : Sensors σ} (h : SameDrivers x y) (readings : Readings) :
    (y.survey readings).2.readings = (x.survey readings).2.readings ∧
      SameDrivers (x.survey readings).1 (y.survey readings).1 := by
  have hdevice : ∀ {β : Type} (f : σ → β) id,
      (y.get? id).map (fun s => f s.device) = (x.get? id).map (fun s => f s.device) := by
    intro β f id
    have hid := congrArg (Option.map f) (h id)
    rwa [Option.map_map, Option.map_map] at hid
  refine ⟨Readings.ext_get? fun id => ?_, fun id => ?_⟩
  · rw [get?_readings_survey, get?_readings_survey, reading, reading,
      hdevice fun d => (Sensor.read d).1]
  · rw [get?_survey, get?_survey, Option.map_map, Option.map_map]
    exact hdevice (fun d => (Sensor.read d).2) id

end Sensors

end AquariumControl
