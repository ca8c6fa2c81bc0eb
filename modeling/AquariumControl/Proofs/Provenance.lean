import AquariumControl.Proofs.Assignment
import AquariumControl.Proofs.Readings

/-!
# Whose value a reading is

The occupants of the sensor registry and their readings are kept in two tables of the same size,
and different operations change them.  That a reading is one of the sensor that is now in the
place is therefore a property of everything that was done before.

* `Aquarium.Access` — everything that can be done with an aquarium, except that the registry of its
  sensors is not handed out.
* `Aquarium.chronicle` — which sensors came, went and were read meanwhile, with the answers.
* `Aquarium.Tenure` — what happened since the present occupant of a place came.
* `Aquarium.Known.access` — one access keeps the two tables in step with the chronicle.
* `Aquarium.reading_belongs_to_occupant` — a reading is the last good answer of the occupant.
-/

set_option autoImplicit false

namespace AquariumControl

namespace Readings

theorem get?_clear (r : Readings) (id j : SlotId) :
    (r.clear id).get? j = if j = id then none else r.get? j := by
  cases id with
  | unassigned => cases j <;> rfl
  | slot i =>
    cases j with
    | unassigned => rfl
    | slot j =>
      rw [clear, get?_put]
      simp only [SlotId.slot.injEq, eq_comm (a := j)]
      by_cases hi : i.val < sensorCapacity
      · simp only [hi, and_true]
      · -- outside the table there is nothing to forget
        have hnone : i = j → r.get? (.slot j) = none := by
          rintro rfl
          rw [get?, Vector.getElem?_eq_none (Nat.not_lt.mp hi), Option.join_none]
        simp only [hi, and_false, if_false]
        split
        · next hij => exact hnone hij
        · rfl

end Readings

namespace Aquarium

/-! ## What is done, and what happens -/

/-- Everything that can be done with an aquarium.  The registries of the controllers and of the
actuators may become any other, and so may a sensor in its place, but the registry of the sensors
stays closed. -/
inductive Access (ρ δ σ τ : Type)
  | operate (op : Operation ρ δ σ)
  | restoreAll (store : ConfigStore τ)
  | changeControllers (f : Controllers ρ → Controllers ρ)
  | changeActuators (f : Actuators δ → Actuators δ)
  | changeSensor (id : SlotId) (f : SensorSlot σ → SensorSlot σ)
  | discardTelemetry (count : Nat)

/-- What happens to the sensors. -/
inductive Occurrence
  | added (id : SlotId)
  | removed (id : SlotId)
  | read (id : SlotId) (answer : Except SensorError Binary64)

namespace Occurrence

/-- The value that the sensor in place `id` has just given. -/
def good (id : SlotId) : Occurrence → Option Binary64
  | read j (.ok value) => if j = id then some value else none
  | _ => none

/-- What is known of place `id` after an occurrence: nothing without an occupant, otherwise the last
value it gave, if any. -/
def teach (id : SlotId) (known : Option (Option Binary64)) : Occurrence → Option (Option Binary64)
  | added j => if j = id then some none else known
  | removed j => if j = id then none else known
  | e@(read ..) => known.map ((e.good id).or ·)

theorem teach_of_stays {e : Occurrence} {id : SlotId} (hadded : e ≠ .added id)
    (hremoved : e ≠ .removed id) (known : Option (Option Binary64)) :
    e.teach id known = known.map ((e.good id).or ·) := by
  cases e with
  | added j =>
    have hne : j ≠ id := fun hj => hadded (hj ▸ rfl)
    simp [teach, good, hne]
  | removed j =>
    have hne : j ≠ id := fun hj => hremoved (hj ▸ rfl)
    simp [teach, good, hne]
  | read j answer => rfl

theorem teach_read_of_ne {j id : SlotId} (h : j ≠ id) (answer : Except SensorError Binary64)
    (known : Option (Option Binary64)) : (read j answer).teach id known = known := by
  have hnothing : (read j answer).good id = none := by cases answer <;> simp [good, h]
  simp [teach, hnothing]

end Occurrence

/-- What happened since the present occupant of a place came. -/
def Tenure (log : List Occurrence) (id : SlotId) (since : List Occurrence) : Prop :=
  ∃ before, log = before ++ .added id :: since ∧ .added id ∉ since ∧ .removed id ∉ since

/-- The last value that the sensor in a place gave. -/
def lastGood (id : SlotId) (log : List Occurrence) : Option Binary64 :=
  (log.filterMap (Occurrence.good id)).getLast?

/-- What is known of a place in the end. -/
def taught (id : SlotId) (log : List Occurrence) (known : Option (Option Binary64)) :
    Option (Option Binary64) :=
  log.foldl (Occurrence.teach id) known

theorem taught_append (id : SlotId) (log log' : List Occurrence)
    (known : Option (Option Binary64)) :
    taught id (log ++ log') known = taught id log' (taught id log known) :=
  List.foldl_append

theorem taught_cons (id : SlotId) (e : Occurrence) (log : List Occurrence)
    (known : Option (Option Binary64)) :
    taught id (e :: log) known = taught id log (e.teach id known) := rfl

theorem lastGood_cons (id : SlotId) (e : Occurrence) (log : List Occurrence) :
    lastGood id (e :: log) = (lastGood id log).or (e.good id) := by
  rw [lastGood, List.filterMap_cons, lastGood]
  cases e.good id with
  | none => rw [Option.or_none]
  | some v =>
    rw [List.getLast?_cons]
    cases (log.filterMap (Occurrence.good id)).getLast? <;> rfl

/-- While an occupant stays, its last good value is known. -/
theorem taught_some {id : SlotId} {log : List Occurrence} (hadded : .added id ∉ log)
    (hremoved : .removed id ∉ log) (value : Option Binary64) :
    taught id log (some value) = some ((lastGood id log).or value) := by
  induction log generalizing value with
  | nil => rfl
  | cons e rest ih =>
    have hfirst : e.teach id (some value) = some ((e.good id).or value) :=
      Occurrence.teach_of_stays (fun he => hadded (he ▸ List.mem_cons_self))
        (fun he => hremoved (he ▸ List.mem_cons_self)) (some value)
    rw [taught_cons, hfirst, ih (fun h => hadded (List.mem_cons_of_mem e h))
      (fun h => hremoved (List.mem_cons_of_mem e h)), lastGood_cons, Option.or_assoc]

theorem exists_tenure {id : SlotId} {log : List Occurrence} {known : Option (Option Binary64)}
    (h : (taught id log known).isSome = true) :
    (∃ since, Tenure log id since) ∨
      known.isSome = true ∧ .added id ∉ log ∧ .removed id ∉ log := by
  induction log generalizing known with
  | nil => exact .inr ⟨h, List.not_mem_nil, List.not_mem_nil⟩
  | cons e rest ih =>
    rcases ih h with ⟨since, before, rfl, hadded, hremoved⟩ | ⟨hknown, hadded, hremoved⟩
    · exact .inl ⟨since, e :: before, rfl, hadded, hremoved⟩
    · by_cases hcame : e = .added id
      · exact .inl ⟨rest, [], by rw [hcame, List.nil_append], hadded, hremoved⟩
      · by_cases hwent : e = .removed id
        · simp [hwent, Occurrence.teach] at hknown
        · rw [Occurrence.teach_of_stays hcame hwent, Option.isSome_map] at hknown
          exact .inr ⟨hknown, List.not_mem_cons_of_ne_of_not_mem (Ne.symm hcame) hadded,
            List.not_mem_cons_of_ne_of_not_mem (Ne.symm hwent) hremoved⟩

theorem Tenure.taught {id : SlotId} {log since : List Occurrence} (h : Tenure log id since) :
    taught id log none = some (lastGood id since) := by
  obtain ⟨before, rfl, hadded, hremoved⟩ := h
  have hcomes : ∀ known, (Occurrence.added id).teach id known = some none := fun known => by
    simp [Occurrence.teach]
  rw [taught_append, taught_cons, hcomes, taught_some hadded hremoved, Option.or_none]

/-- **What is known of a place is the last good value in the tenure of its occupant.** -/
theorem taught_eq_some_iff {id : SlotId} {log : List Occurrence} {value : Option Binary64} :
    taught id log none = some value ↔ ∃ since, Tenure log id since ∧ lastGood id since = value := by
  constructor
  · intro h
    have hsome : (taught id log none).isSome = true := by rw [h, Option.isSome_some]
    rcases exists_tenure hsome with ⟨since, htenure⟩ | ⟨hnone, -, -⟩
    · exact ⟨since, htenure, Option.some.inj (htenure.taught.symm.trans h)⟩
    · cases hnone
  · rintro ⟨since, htenure, rfl⟩
    exact htenure.taught

/-! ## One access -/

variable {ρ δ σ τ : Type}

/-- What is left after an access. -/
def Access.after [Rule ρ] [Actuator δ] [Sensor σ] [Storage τ]
    (s : Aquarium ρ δ σ × ConfigStore τ) : Access ρ δ σ τ → Aquarium ρ δ σ × ConfigStore τ
  | .operate op => op.after s
  | .restoreAll store => ((s.1.restoreAll store).state, s.2)
  | .changeControllers f => ({ s.1 with controllers := f s.1.controllers }, s.2)
  | .changeActuators f => ({ s.1 with actuators := f s.1.actuators }, s.2)
  | .changeSensor id f => ({ s.1 with sensors := s.1.sensors.modify id f }, s.2)
  | .discardTelemetry count => (s.1.discardTelemetry count, s.2)

/-- What happens to the sensors in an access. -/
def Access.occurrences [Sensor σ] (a : Aquarium ρ δ σ) : Access ρ δ σ τ → List Occurrence
  | .operate (.addSensor name device) => (a.addSensor name device).answer.toList.map .added
  | .operate (.removeSensor id) => (a.removeSensor id).answer.toList.map fun _ => .removed id
  | .operate (.runCycle _ _) =>
    (Registry.entries a.sensors).map fun e => .read e.1 (Sensor.read e.2.device).1
  | _ => []

/-- The two tables agree with what is known of a place. -/
structure Known (a : Aquarium ρ δ σ) (id : SlotId) (known : Option (Option Binary64)) : Prop where
  contains : a.sensors.contains id = known.isSome
  reading : a.sensorValue id = known.join

namespace Known

variable {a : Aquarium ρ δ σ} {id : SlotId} {known : Option (Option Binary64)}

theorem addSensor (h : a.Known id known) (name : String) (device : σ) :
    (a.addSensor name device).state.Known id
      (taught id ((a.addSensor name device).answer.toList.map .added) known) := by
  rw [Aquarium.addSensor]
  split
  · exact h
  · next j sensors hadd =>
    have hget := Registry.get?_addWith hadd id
    by_cases hid : j = id
    · -- the place was free, so nothing was known of it
      subst hid
      have hfree : a.sensors.get? j = none := Registry.free_of_addWith hadd
      have hnone : known = none := by simpa [Registry.contains, hfree] using h.contains
      have hreading : a.readings.get? j = none := h.reading.trans (by rw [hnone]; rfl)
      have htaught : taught j [.added j] known = some none := if_pos rfl
      exact ⟨by simp [Registry.contains, hget, htaught], hreading.trans (by simp [htaught])⟩
    · have htaught : taught id [.added j] known = known := if_neg hid
      rw [if_neg (Ne.symm hid)] at hget
      exact ⟨by simp [Registry.contains, hget, htaught, ← h.contains],
        h.reading.trans (by simp [htaught])⟩

theorem removeSensor (h : a.Known id known) (gone : SlotId) :
    (a.removeSensor gone).state.Known id
      (taught id ((a.removeSensor gone).answer.toList.map fun _ => .removed gone) known) := by
  rw [Aquarium.removeSensor]
  split
  · exact h
  · next slot sensors hremove =>
    have hget := Registry.get?_remove hremove id
    have hreading := a.readings.get?_clear gone id
    by_cases hid : gone = id
    · subst hid
      have htaught : taught gone [.removed gone] known = none := if_pos rfl
      rw [if_pos rfl] at hget hreading
      exact ⟨by simp [Registry.contains, hget, htaught], hreading.trans (by simp [htaught])⟩
    · have htaught : taught id [.removed gone] known = known := if_neg hid
      rw [if_neg (Ne.symm hid)] at hget hreading
      exact ⟨by simp [Registry.contains, hget, htaught, ← h.contains],
        (hreading.trans h.reading).trans (by simp [htaught])⟩

theorem assignActuator (h : a.Known id known) {actuator controller : SlotId}
    {a' : Aquarium ρ δ σ} (hok : a.assignActuator actuator controller = .ok a') :
    a'.Known id known := by
  rw [Aquarium.assignActuator] at hok
  split at hok
  · cases hok
  · split at hok
    · rw [← Except.ok.inj hok]
      exact ⟨h.contains, h.reading⟩
    · cases hok

/-- What is done to a sensor in its place makes no difference. -/
theorem changeSensor (h : a.Known id known) (j : SlotId) (f : SensorSlot σ → SensorSlot σ) :
    ({ a with sensors := a.sensors.modify j f } : Aquarium ρ δ σ).Known id known :=
  ⟨(a.sensors.contains_modify j f id).trans h.contains, h.reading⟩

variable [Sensor σ]

/-- Reads in other places teach nothing. -/
theorem taught_reads_of_notMem {entries : List (SlotId × SensorSlot σ)} {id : SlotId}
    (h : id ∉ entries.map Prod.fst) (known : Option (Option Binary64)) :
    taught id (entries.map fun e => .read e.1 (Sensor.read e.2.device).1) known = known := by
  induction entries with
  | nil => rfl
  | cons e rest ih =>
    obtain ⟨hne, hrest⟩ := not_or.mp (mt List.mem_cons.mpr h)
    rw [List.map_cons, taught_cons, Occurrence.teach_read_of_ne (Ne.symm hne), ih hrest]

/-- **A pass over the sensors** teaches of each place what its occupant answers. -/
theorem taught_reads (sensors : Sensors σ) (id : SlotId) (known : Option (Option Binary64)) :
    taught id ((Registry.entries sensors).map fun e => .read e.1 (Sensor.read e.2.device).1) known =
      (sensors.get? id).elim known fun slot =>
        (Occurrence.read id (Sensor.read slot.device).1).teach id known := by
  have hnodup := sensors.nodup_entries
  cases hid : sensors.get? id with
  | none =>
    refine taught_reads_of_notMem (fun hmem => ?_) known
    obtain ⟨e, he, rfl⟩ := List.mem_map.mp hmem
    rw [sensors.mem_entries.mp he] at hid
    cases hid
  | some slot =>
    obtain ⟨front, back, hentries⟩ := List.append_of_mem (sensors.mem_entries.mpr hid)
    rw [hentries, List.map_append, List.map_cons, List.perm_middle.nodup_iff, List.nodup_cons,
      List.mem_append, not_or] at hnodup
    rw [hentries, List.map_append, List.map_cons, taught_append, taught_cons,
      taught_reads_of_notMem hnodup.1.1, taught_reads_of_notMem hnodup.1.2]
    rfl

theorem runCycle [Rule ρ] [Actuator δ] (h : a.Known id known) (uptime : UInt64)
    (time : Option TimeOfDay) :
    (a.runCycle uptime time).state.Known id
      (taught id ((Registry.entries a.sensors).map fun e => .read e.1 (Sensor.read e.2.device).1)
        known) := by
  have hcontains : (a.runCycle uptime time).state.sensors.contains id = a.sensors.contains id :=
    a.sensors.contains_mapAccum _ _ id
  have hreading : (a.runCycle uptime time).state.sensorValue id = a.sensors.reading a.readings id :=
    a.sensors.get?_readings_survey a.readings id
  rw [taught_reads]
  cases hid : a.sensors.get? id with
  | none =>
    refine ⟨hcontains.trans h.contains, hreading.trans ?_⟩
    rw [Sensors.reading, hid]
    exact h.reading
  | some slot =>
    have hsome : known.isSome = true := by rw [← h.contains, Registry.contains, hid]; rfl
    obtain ⟨value, rfl⟩ := Option.isSome_iff_exists.mp hsome
    refine ⟨hcontains.trans h.contains, hreading.trans ?_⟩
    have hlast : a.readings.get? id = value := h.reading
    rw [Sensors.reading, hid, Option.map_some, hlast, Option.elim_some]
    cases (Sensor.read slot.device).1 with
    | error e => rfl
    | ok v => simp [Occurrence.teach, Occurrence.good]

/-- **One access** keeps the two tables in step with what is known. -/
theorem access [Rule ρ] [Actuator δ] [Storage τ] {s : Aquarium ρ δ σ × ConfigStore τ}
    (h : s.1.Known id known) (x : Access ρ δ σ τ) :
    (x.after s).1.Known id (taught id (x.occurrences s.1) known) := by
  cases x with
  | operate op =>
    cases op with
    | addSensor name device => exact h.addSensor name device
    | removeSensor gone => exact h.removeSensor gone
    | runCycle uptime time => exact h.runCycle uptime time
    | addController name rule =>
      rw [Access.after, Operation.after, addController]
      split <;> exact ⟨h.contains, h.reading⟩
    | addActuator name device =>
      rw [Access.after, Operation.after, addActuator]
      split <;> exact ⟨h.contains, h.reading⟩
    | removeController gone =>
      rw [Access.after, Operation.after, removeController]
      split <;> exact ⟨h.contains, h.reading⟩
    | removeActuator gone =>
      rw [Access.after, Operation.after, removeActuator]
      split <;> exact ⟨h.contains, h.reading⟩
    | assignActuator actuator controller =>
      rw [Access.after, Operation.after]
      split
      · next hok => exact h.assignActuator hok
      · exact h
    | saveAll => exact h
  | restoreAll store => exact ⟨(s.1.sensors.contains_mapAccum _ _ id).trans h.contains, h.reading⟩
  | changeControllers f => exact ⟨h.contains, h.reading⟩
  | changeActuators f => exact ⟨h.contains, h.reading⟩
  | changeSensor j f => exact h.changeSensor j f
  | discardTelemetry count => exact ⟨h.contains, h.reading⟩

end Known

/-! ## All accesses -/

variable [Rule ρ] [Actuator δ] [Sensor σ] [Storage τ]

/-- What is left after some accesses. -/
def visit (s : Aquarium ρ δ σ × ConfigStore τ) (history : List (Access ρ δ σ τ)) :
    Aquarium ρ δ σ × ConfigStore τ :=
  history.foldl (fun s x => x.after s) s

/-- What happened to the sensors in some accesses. -/
def chronicle (s : Aquarium ρ δ σ × ConfigStore τ) : List (Access ρ δ σ τ) → List Occurrence
  | [] => []
  | x :: rest => x.occurrences s.1 ++ chronicle (x.after s) rest

/-- **All accesses** keep the two tables in step with what is known. -/
theorem Known.visit {s : Aquarium ρ δ σ × ConfigStore τ} {id : SlotId}
    {known : Option (Option Binary64)} (h : s.1.Known id known) (history : List (Access ρ δ σ τ)) :
    (visit s history).1.Known id (taught id (chronicle s history) known) := by
  induction history generalizing s known with
  | nil => exact h
  | cons x rest ih =>
    rw [chronicle, taught_append]
    exact ih (h.access x)

/-- What is left of an aquarium that began empty agrees with its chronicle. -/
theorem known_visit_empty (store : ConfigStore τ) (history : List (Access ρ δ σ τ)) (id : SlotId) :
    (visit (empty, store) history).1.Known id (taught id (chronicle (empty, store) history) none) :=
  Known.visit ⟨by simp [empty, Sensors.empty, Registry.contains], by simp [empty, sensorValue]⟩
    history

/-- **A reading belongs to the sensor that is now in the place.**  Whatever was done with an
aquarium that began empty, as long as the registry of its sensors was not handed out, and whatever
its sensors answered: a place is occupied exactly if there is a sensor that came to it and has not
left since, and it has a reading exactly if that sensor gave a value since it came, which is then
the last one it gave.  The rules of a cycle run on the table that the cycle leaves, so what they see
of a place is the last value of its occupant too, the reads of that cycle included. -/
theorem reading_belongs_to_occupant (store : ConfigStore τ) (history : List (Access ρ δ σ τ)) :
    let a := (visit (empty, store) history).1
    let log := chronicle (empty, store) history
    (∀ id, a.sensors.contains id = true ↔ ∃ since, Tenure log id since) ∧
      (∀ id value, a.sensorValue id = some value ↔
        ∃ since, Tenure log id since ∧ lastGood id since = some value) ∧
      ∀ uptime time,
        let cycle := a.runCycle uptime time
        let read := chronicle (empty, store) (history ++ [.operate (.runCycle uptime time)])
        cycle.state.controllers =
            (a.controllers.mapAccum (runRule cycle.state.readings uptime time)
              (⟨a.actuators, [], (a.sensors.survey a.readings).2.journal⟩, ⟨0, 0, 0⟩)).1.exhaust ∧
          ∀ id value, cycle.state.readings.get? id = some value ↔
            ∃ since, Tenure read id since ∧ lastGood id since = some value := by
  have hvalue : ∀ (history : List (Access ρ δ σ τ)) id value,
      (visit (empty, store) history).1.sensorValue id = some value ↔
        ∃ since, Tenure (chronicle (empty, store) history) id since ∧
          lastGood id since = some value := fun history id value => by
    rw [(known_visit_empty store history id).reading, Option.join_eq_some_iff, taught_eq_some_iff]
  intro a log
  refine ⟨fun id => ?_, hvalue history, fun uptime time => ⟨rfl, fun id value => ?_⟩⟩
  · rw [(known_visit_empty store history id).contains, Option.isSome_iff_exists]
    simp only [taught_eq_some_iff]
    exact ⟨fun ⟨_, since, h, _⟩ => ⟨since, h⟩, fun ⟨since, h⟩ => ⟨_, since, h, rfl⟩⟩
  · have hlast := hvalue (history ++ [.operate (.runCycle uptime time)]) id value
    rw [visit, List.foldl_append] at hlast
    exact hlast

/-- A steady sensor is read, and one that fails takes its place. -/
def succession : List (Access AnyRule Relay Probe Memory) :=
  [.operate (.addSensor "steady" ⟨.ok .one⟩), .operate (.runCycle 0 none),
    .operate (.removeSensor (.ofNat 0)), .operate (.addSensor "broken" .silent),
    .operate (.runCycle 10 none)]

/-- The first sensor has a reading, and its successor starts without one. -/
theorem successor_starts_without_reading :
    let store : ConfigStore Memory := ⟨Memory.empty, ConfigStore.defaultSpace⟩
    let left (n : Nat) := (visit (empty, store) (succession.take n)).1
    (left 2).sensorValue (.ofNat 0) = some .one ∧
      (left 5).sensors.contains (.ofNat 0) = true ∧ (left 5).sensorValue (.ofNat 0) = none := by
  intro store left
  obtain ⟨-, hsteady, -⟩ := reading_belongs_to_occupant store (succession.take 2)
  obtain ⟨hoccupied, hbroken, -⟩ := reading_belongs_to_occupant store (succession.take 5)
  have hfailed : taught (.ofNat 0) (chronicle (empty, store) (succession.take 5)) none =
      some none := by decide
  obtain ⟨since, htenure, -⟩ := taught_eq_some_iff.mp hfailed
  refine ⟨(hsteady _ _).mpr (taught_eq_some_iff.mp (by decide)),
    (hoccupied _).mpr ⟨since, htenure⟩, Option.eq_none_iff_forall_ne_some.mpr fun value h => ?_⟩
  have hknown := taught_eq_some_iff.mpr ((hbroken _ value).mp h)
  rw [hfailed] at hknown
  cases hknown

end Aquarium

end AquariumControl
