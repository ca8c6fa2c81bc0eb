import AquariumControl.Aquarium.Persistence
import AquariumControl.Proofs.Labels
import AquariumControl.Proofs.StoredDrivers

/-!
# What saving leaves in the store

A record always fits, whatever its name and its payload, and read from its own bytes it is itself
again (`Record.decode_encode`).  So what saving leaves is up to the medium.

* `Storage.Exact` — a medium that returns exactly what was written, from now on.
* `Found` — what there is under a key, by what the medium gives.
* `ConfigStore.Recorded` — what storing one record does to such a store.
* `Aquarium.found_of_mem_records` — if no object was counted as failed, the record of every object
  is found under its label afterwards: the keys are distinct, so no record replaces another.
* `Aquarium.readRecord_saveAll` — which record that is, where the standard rules and drivers are
  used.
-/

set_option autoImplicit false

namespace AquariumControl

open Reader Wire

/-! ## Records as bytes -/

namespace Record

theorem size_name_lt (n : Name) : n.text.utf8ByteSize < 128 :=
  Nat.lt_of_le_of_lt n.size_le (by decide)

theorem reads_name {n : Name} {bytes : List UInt8} (h : readText.Reads bytes n.text) :
    readName.Reads bytes n := by
  refine h.andThen ?_
  rw [Name.ofString?, dif_pos n.size_le]

/-- A record is read from its fields, whatever bytes they are read from. -/
theorem reads_of_fields {r : Record} {controller actuator sensor name payload : List UInt8}
    (hcontroller : readSlotId.Reads controller r.controller)
    (hactuator : readSlotId.Reads actuator r.actuator)
    (hsensor : readSlotId.Reads sensor r.sensor) (hname : readText.Reads name r.name.text)
    (hpayload : (readBlock payloadCapacity).Reads payload r.payload) :
    read.Reads (r.kind :: (controller ++ actuator ++ sensor ++ name ++ payload)) r := by
  simp only [List.append_assoc]
  refine (reads_byte r.kind).bind ?_
  refine hcontroller.bind ?_
  refine hactuator.bind ?_
  refine hsensor.bind ?_
  refine (reads_name hname).bind ?_
  exact hpayload.andThen rfl

/-- From its own bytes a record is read as it was. -/
theorem reads (r : Record) : read.Reads r.encode r := by
  have hname : r.name.text.utf8ByteSize < groupLimit 1 10 :=
    Nat.lt_of_lt_of_le (size_name_lt r.name) (by decide)
  exact reads_of_fields (reads_slotId _) (reads_slotId _) (reads_slotId _) (reads_text hname)
    (reads_block (by decide) _)

theorem decode_encode (r : Record) : decode r.encode = .ok r := by
  rw [decode, r.reads.decode_self]
  rfl

/-- Every record fits. -/
theorem length_encode_le (r : Record) : r.encode.length ≤ recordCapacity := by
  have hname := r.name.size_le
  have hpayload := r.payload.property
  have hheader : ∀ n, n < 128 → (Wire.size.write n).length = 1 := fun n => length_writeSize
  have hblock : (Wire.size.write r.payload.val.length).length = 1 :=
    hheader _ (Nat.lt_of_le_of_lt hpayload (by decide))
  simp only [encode, List.length_cons, List.length_append, writeSlotId, List.length_nil, writeText,
    writeBlock, hheader _ (size_name_lt r.name), hblock, length_utf8]
  simp only [nameCapacity, payloadCapacity, recordCapacity] at *
  omega

theorem write_eq (r : Record) : r.write recordCapacity = .ok (Block.ofBytes r.encode) :=
  Block.fit_of_le r.length_encode_le

end Record

/-! ## Exact media -/

/-- As long as it is good, a medium returns exactly what was written, and every accepted write
leaves it good. -/
structure Storage.Honest {τ : Type} [Storage τ] (Good : τ → Prop) : Prop where
  stays : ∀ {m : τ} {space key bytes}, Good m →
    (Storage.write m space key bytes).answer = .ok () →
      Good (Storage.write m space key bytes).state
  written : ∀ {m : τ} {space key bytes}, Good m →
    (Storage.write m space key bytes).answer = .ok () → ∀ capacity,
      (Storage.read (Storage.write m space key bytes).state space key capacity).1 =
        Storage.copy (some bytes) capacity
  others : ∀ {m : τ} {space key bytes}, Good m →
    (Storage.write m space key bytes).answer = .ok () → ∀ key', key' ≠ key → ∀ capacity,
      (Storage.read (Storage.write m space key bytes).state space key' capacity).1 =
        (Storage.read m space key' capacity).1

/-- From now on the medium returns exactly what was written. -/
def Storage.Exact {τ : Type} [Storage τ] (m : τ) : Prop :=
  ∃ Good : τ → Prop, Storage.Honest Good ∧ Good m

theorem Memory.exact (m : Memory) : Storage.Exact m := by
  refine ⟨fun _ => True, ⟨fun _ _ => trivial, ?_, ?_⟩, trivial⟩
  · intro m space key bytes _ _ capacity
    show Storage.copy ((m.table.put (space, key) bytes).get? (space, key)) capacity = _
    rw [Table.get?_put, if_pos rfl]
  · intro m space key bytes _ _ key' hne capacity
    show Storage.copy ((m.table.put (space, key) bytes).get? (space, key')) capacity = _
    rw [Table.get?_put, if_neg fun h => hne (Prod.mk.inj h).2]
    rfl

theorem Flash.entryName_inj {space key key' : String} :
    entryName space key = entryName space key' ↔ key = key' := by
  refine ⟨fun h => ?_, fun h => h ▸ rfl⟩
  have hlists := congrArg String.toList h
  simp only [entryName, String.toList_append] at hlists
  exact String.toList_inj.mp (List.append_cancel_left hlists)

theorem Flash.exact (m : Flash) : Storage.Exact m := by
  refine ⟨fun _ => True, ⟨fun _ _ => trivial, ?_, ?_⟩, trivial⟩
  · intro m space key bytes _ _ capacity
    show Storage.copy ((m.table.put (entryName space key) bytes).get? (entryName space key))
      capacity = _
    rw [Table.get?_put, if_pos rfl]
  · intro m space key bytes _ _ key' hne capacity
    show Storage.copy ((m.table.put (entryName space key) bytes).get? (entryName space key'))
      capacity = _
    rw [Table.get?_put, if_neg fun h => hne (entryName_inj.mp h)]
    rfl

/-! ## One record -/

theorem Storage.copy_of_le {bytes : List UInt8} {capacity : Nat} (h : bytes.length ≤ capacity) :
    copy (some bytes) capacity = .ok (Block.ofBytes bytes) :=
  if_pos h

/-- **What there is under a key**, by what the medium gives when the value is read into a buffer for
one record: nothing, a record, or the reason why no record can be had. -/
inductive Found : Except StorageError Block → Except Fault (Option Record) → Prop
  | absent : Found (.error .notFound) (.ok none)
  | unreadable {e : StorageError} (he : e ≠ .notFound) : Found (.error e) (.error (.storage e))
  | overlong {block : Block} (hclaim : recordCapacity < block.claimed) :
      Found (.ok block) (.error (.codec .bufferTooSmall))
  | garbled {block : Block} {bytes : List UInt8} {e : CodecError}
      (hbytes : block.contents? recordCapacity = some bytes)
      (hrecord : Record.decode bytes = .error e) : Found (.ok block) (.error (.codec e))
  | record {block : Block} {bytes : List UInt8} {r : Record}
      (hbytes : block.contents? recordCapacity = some bytes)
      (hrecord : Record.decode bytes = .ok r) : Found (.ok block) (.ok (some r))

namespace ConfigStore

theorem found_recordOf (given : Except StorageError Block) : Found given (recordOf given) := by
  rcases given with e | block
  · cases e with
    | notFound => exact .absent
    | full => exact .unreadable (by decide)
    | ioError => exact .unreadable (by decide)
    | bufferTooSmall => exact .unreadable (by decide)
  · cases hbytes : block.contents? recordCapacity with
    | none =>
      simp only [recordOf, hbytes]
      refine .overlong (Nat.lt_of_not_le fun hclaim => ?_)
      rw [Block.contents?, if_pos hclaim] at hbytes
      cases hbytes
    | some bytes =>
      cases hrecord : Record.decode bytes with
      | error e =>
        simp only [recordOf, hbytes, hrecord]
        exact .garbled hbytes hrecord
      | ok r =>
        simp only [recordOf, hbytes, hrecord]
        exact .record hbytes hrecord

/-- What the medium gives decides what is found. -/
theorem eq_recordOf {given : Except StorageError Block}
    {found : Except Fault (Option Record)} (h : Found given found) : found = recordOf given := by
  cases h with
  | absent => rfl
  | @unreadable e he =>
    cases e with
    | notFound => exact absurd rfl he
    | full => rfl
    | ioError => rfl
    | bufferTooSmall => rfl
  | overlong hclaim => simp only [recordOf, Block.contents?, if_neg (Nat.not_le_of_lt hclaim)]
  | garbled hbytes hrecord => simp only [recordOf, hbytes, hrecord]
  | record hbytes hrecord => simp only [recordOf, hbytes, hrecord]

variable {τ : Type} [Storage τ]

/-- A record under a key in an exact store, beside what was there under other keys. -/
structure Recorded (s : ConfigStore τ) (key : String) (r : Record) (s' : ConfigStore τ) :
    Prop where
  exact : Storage.Exact s'.storage
  found : (s'.readRecord key).1 = .ok (some r)
  others : ∀ key', key' ≠ key → (s'.readRecord key').1 = (s.readRecord key').1

theorem recordOf_of_decode {bytes : List UInt8} {r : Record}
    (hfits : bytes.length ≤ recordCapacity) (hdecode : Record.decode bytes = .ok r) :
    recordOf (Storage.copy (some bytes) recordCapacity) = .ok (some r) := by
  simp only [Storage.copy_of_le hfits, recordOf, Block.contents?_ofBytes hfits, hdecode]

theorem recordOf_copy (r : Record) :
    recordOf (Storage.copy (some r.encode) recordCapacity) = .ok (some r) :=
  recordOf_of_decode r.length_encode_le r.decode_encode

/-- Every record fits, so only the medium can refuse it. -/
theorem answer_writeRecord (s : ConfigStore τ) (key : String) (r : Record) :
    (s.writeRecord key r).answer =
      (Storage.write s.storage s.space key r.encode).answer.mapError .storage := by
  rw [writeRecord, r.write_eq]
  dsimp only
  split
  · next hrefused =>
    rw [Block.ofBytes] at hrefused
    rw [hrefused]
    rfl
  · next haccepted =>
    rw [Block.ofBytes] at haccepted
    rw [haccepted]
    rfl

theorem state_writeRecord (s : ConfigStore τ) (key : String) (r : Record) :
    (s.writeRecord key r).state =
      { s with storage := (Storage.write s.storage s.space key r.encode).state } := by
  rw [writeRecord, r.write_eq]
  dsimp only
  split <;> rfl

theorem recorded_writeRecord {s : ConfigStore τ} (hexact : Storage.Exact s.storage) (key : String)
    (r : Record) (hok : (s.writeRecord key r).answer = .ok ()) :
    Recorded s key r (s.writeRecord key r).state := by
  obtain ⟨Good, hhonest, hgood⟩ := hexact
  have hwrite : (Storage.write s.storage s.space key r.encode).answer = .ok () := by
    rwa [answer_writeRecord, Except.mapError_eq_ok] at hok
  rw [state_writeRecord]
  refine ⟨⟨Good, hhonest, hhonest.stays hgood hwrite⟩, ?_, fun key' hne => ?_⟩
  · exact (congrArg recordOf (hhonest.written hgood hwrite recordCapacity)).trans (recordOf_copy r)
  · exact congrArg recordOf (hhonest.others hgood hwrite key' hne recordCapacity)

end ConfigStore

/-! ## The records of an aquarium -/

namespace ControllerSlot

/-- The record that is stored of a controller. -/
def stored (s : ControllerSlot StandardRule) (id : SlotId) : Record :=
  ⟨s.kind.tag, id, .unassigned, .unassigned, s.name, ⟨s.rule.encode, s.rule.length_encode_le⟩⟩

theorem record_eq (s : ControllerSlot StandardRule) (id : SlotId) :
    s.record id = .ok (s.stored id) := by
  rw [record, s.rule.payloadOf_save]
  rfl

end ControllerSlot

namespace ActuatorSlot

variable {δ : Type} [Actuator δ]

/-- The record that is stored of an actuator. -/
def stored (s : ActuatorSlot (StandardOutput δ)) (id : SlotId) : Record :=
  ⟨s.kind.tag, s.controller, id, .unassigned, s.name,
    ⟨s.device.encode, s.device.length_encode_le⟩⟩

theorem record_eq (s : ActuatorSlot (StandardOutput δ)) (id : SlotId) :
    s.record id = .ok (s.stored id) := by
  rw [record, s.device.payloadOf_save]
  rfl

end ActuatorSlot

namespace SensorSlot

variable {σ : Type} [Sensor σ]

/-- The record that is stored of a sensor. -/
def stored (s : SensorSlot (StandardSensor σ)) (id : SlotId) : Record :=
  ⟨s.kind.tag, .unassigned, .unassigned, id, s.name,
    ⟨s.device.encode, s.device.length_encode_le⟩⟩

theorem record_eq (s : SensorSlot (StandardSensor σ)) (id : SlotId) :
    s.record id = .ok (s.stored id) := by
  rw [record, s.device.payloadOf_save]
  rfl

end SensorSlot

namespace Aquarium

section

variable {τ : Type} [Storage τ]

theorem failed_le_addSave (t : Tally) (answer : Except Fault Unit) :
    t.failed ≤ (t.addSave answer).failed := by
  cases answer with
  | error f => exact Nat.le_succ t.failed
  | ok _ => exact Nat.le_refl _

theorem failed_le_foldl_saveStep (objects : List (Label × Except CodecError Record))
    (acc : Outcome (ConfigStore τ) Tally) :
    acc.answer.failed ≤ (objects.foldl saveStep acc).answer.failed := by
  induction objects generalizing acc with
  | nil => exact Nat.le_refl _
  | cons object rest ih => exact Nat.le_trans (failed_le_addSave _ _) (ih (saveStep acc object))

/-- If nothing failed, every object had a record, which is found under its key in the end, and what
was there under other keys is as it was. -/
theorem recorded_foldl_saveStep (objects : List (Label × Except CodecError Record))
    (hkeys : (objects.map fun o => o.1.text).Nodup) (acc : Outcome (ConfigStore τ) Tally)
    (hexact : Storage.Exact acc.state.storage)
    (hsaved : (objects.foldl saveStep acc).answer.failed = 0) :
    (∀ o ∈ objects, ∃ r, o.2 = .ok r ∧
      ((objects.foldl saveStep acc).state.readRecord o.1.text).1 = .ok (some r)) ∧
    ∀ key, key ∉ objects.map (fun o => o.1.text) →
      ((objects.foldl saveStep acc).state.readRecord key).1 = (acc.state.readRecord key).1 := by
  induction objects generalizing acc with
  | nil => exact ⟨fun o ho => absurd ho List.not_mem_nil, fun _ _ => rfl⟩
  | cons o rest ih =>
    obtain ⟨l, record⟩ := o
    rw [List.map_cons, List.nodup_cons] at hkeys
    rw [List.foldl_cons] at hsaved ⊢
    -- nothing failed in the end, so this object had a record and the store accepted it
    have hfailed : (saveStep acc (l, record)).answer.failed = 0 :=
      Nat.le_zero.mp (Nat.le_trans (failed_le_foldl_saveStep _ _) (Nat.le_of_eq hsaved))
    have hok : (acc.state.save l record).answer = .ok () := by
      cases hanswer : (acc.state.save l record).answer with
      | ok _ => rfl
      | error f =>
        simp only [saveStep, hanswer, Tally.addSave] at hfailed
        omega
    cases record with
    | error e => cases hok
    | ok r =>
      have hrecorded := ConfigStore.recorded_writeRecord hexact _ _ hok
      obtain ⟨hrest, hothers⟩ := ih hkeys.2 (saveStep acc (l, .ok r)) hrecorded.exact hsaved
      constructor
      · intro o' ho'
        rcases List.mem_cons.mp ho' with rfl | hmem
        · exact ⟨r, rfl, (hothers _ hkeys.1).trans hrecorded.found⟩
        · exact hrest o' hmem
      · intro key hkey
        rw [List.map_cons, List.mem_cons, not_or] at hkey
        exact (hothers key hkey.2).trans (hrecorded.others key hkey.1)

/-- A medium that accepts everything keeps every record. -/
theorem answer_foldl_saveStep
    (haccepts : ∀ (m : τ) space key bytes, (Storage.write m space key bytes).answer = .ok ())
    (objects : List (Label × Record)) (acc : Outcome (ConfigStore τ) Tally) :
    ((objects.map fun o => (o.1, Except.ok o.2)).foldl saveStep acc).answer =
      { acc.answer with applied := acc.answer.applied + objects.length } := by
  induction objects generalizing acc with
  | nil => rfl
  | cons o rest ih =>
    have hok : (acc.state.writeRecord o.1.text o.2).answer = .ok () := by
      rw [ConfigStore.answer_writeRecord, haccepts]
      rfl
    rw [List.map_cons, List.foldl_cons, ih]
    simp only [saveStep, ConfigStore.save, hok, Tally.addSave, List.length_cons]
    congr 1
    omega

variable {ρ δ σ : Type} [Rule ρ] [Actuator δ] [Sensor σ] (a : Aquarium ρ δ σ)

theorem labels_records : a.records.map Prod.fst = a.labels := by
  simp only [records, labels, Registry.labels_eq, List.map_append, List.map_map,
    Function.comp_def]

theorem keys_records : a.records.map (fun o => o.1.text) = a.labels.map Label.text := by
  rw [← labels_records, List.map_map]
  rfl

theorem mem_records_controller {id : SlotId} {s : ControllerSlot ρ}
    (hid : a.controllers.get? id = some s) : (⟨.controller, id⟩, s.record id) ∈ a.records :=
  List.mem_append_left _ (List.mem_append_left _
    (List.mem_map.mpr ⟨(id, s), a.controllers.mem_entries.mpr hid, rfl⟩))

theorem mem_records_actuator {id : SlotId} {s : ActuatorSlot δ}
    (hid : a.actuators.get? id = some s) : (⟨.actuator, id⟩, s.record id) ∈ a.records :=
  List.mem_append_left _ (List.mem_append_right _
    (List.mem_map.mpr ⟨(id, s), a.actuators.mem_entries.mpr hid, rfl⟩))

theorem mem_records_sensor {id : SlotId} {s : SensorSlot σ}
    (hid : a.sensors.get? id = some s) : (⟨.sensor, id⟩, s.record id) ∈ a.records :=
  List.mem_append_right _ (List.mem_map.mpr ⟨(id, s), a.sensors.mem_entries.mpr hid, rfl⟩)

/-- **If saving reports no failure, every object had a record, and it is there afterwards.** -/
theorem found_of_mem_records {store : ConfigStore τ} (hexact : Storage.Exact store.storage)
    (hsaved : (a.saveAll store).answer.failed = 0) {o : Label × Except CodecError Record}
    (ho : o ∈ a.records) :
    ∃ r, o.2 = .ok r ∧ ((a.saveAll store).state.readRecord o.1.text).1 = .ok (some r) := by
  have hkeys : (a.records.map fun o => o.1.text).Nodup := by
    rw [keys_records]
    exact a.nodup_keys
  exact (recorded_foldl_saveStep a.records hkeys ⟨Tally.zero, store, []⟩ hexact hsaved).1 o ho

end

variable {δ σ τ : Type} [Actuator δ] [Sensor σ] [Storage τ]

/-- The labels of all objects with the records that are stored of them. -/
def stored (a : StandardAquarium δ σ) : List (Label × Record) :=
  (a.controllers.entries.map fun e => (⟨.controller, e.1⟩, e.2.stored e.1)) ++
    (a.actuators.entries.map fun e => (⟨.actuator, e.1⟩, e.2.stored e.1)) ++
    (a.sensors.entries.map fun e => (⟨.sensor, e.1⟩, e.2.stored e.1))

theorem records_eq (a : StandardAquarium δ σ) :
    a.records = a.stored.map fun o => (o.1, .ok o.2) := by
  simp only [records, stored, List.map_append, List.map_map, Function.comp_def,
    ControllerSlot.record_eq, ActuatorSlot.record_eq, SensorSlot.record_eq]

theorem mem_stored_controller (a : StandardAquarium δ σ) {id : SlotId}
    {s : ControllerSlot StandardRule} (hid : a.controllers.get? id = some s) :
    (⟨.controller, id⟩, s.stored id) ∈ a.stored :=
  List.mem_append_left _ (List.mem_append_left _
    (List.mem_map.mpr ⟨(id, s), a.controllers.mem_entries.mpr hid, rfl⟩))

theorem mem_stored_actuator (a : StandardAquarium δ σ) {id : SlotId}
    {s : ActuatorSlot (StandardOutput δ)} (hid : a.actuators.get? id = some s) :
    (⟨.actuator, id⟩, s.stored id) ∈ a.stored :=
  List.mem_append_left _ (List.mem_append_right _
    (List.mem_map.mpr ⟨(id, s), a.actuators.mem_entries.mpr hid, rfl⟩))

theorem mem_stored_sensor (a : StandardAquarium δ σ) {id : SlotId}
    {s : SensorSlot (StandardSensor σ)} (hid : a.sensors.get? id = some s) :
    (⟨.sensor, id⟩, s.stored id) ∈ a.stored :=
  List.mem_append_right _ (List.mem_map.mpr ⟨(id, s), a.sensors.mem_entries.mpr hid, rfl⟩)

theorem mem_records (a : StandardAquarium δ σ) {o : Label × Record} (ho : o ∈ a.stored) :
    (o.1, .ok o.2) ∈ a.records := by
  rw [records_eq]
  exact List.mem_map_of_mem ho

/-- **If saving reports no failure, every record is there afterwards.** -/
theorem readRecord_saveAll (a : StandardAquarium δ σ) {store : ConfigStore τ}
    (hexact : Storage.Exact store.storage) (hsaved : (a.saveAll store).answer.failed = 0)
    {o : Label × Record} (ho : o ∈ a.stored) :
    ((a.saveAll store).state.readRecord o.1.text).1 = .ok (some o.2) := by
  obtain ⟨r, hr, hfound⟩ := a.found_of_mem_records hexact hsaved (a.mem_records ho)
  rw [Except.ok.inj hr]
  exact hfound

/-- A medium that accepts everything keeps the record of every object. -/
theorem answer_saveAll (a : StandardAquarium δ σ) (store : ConfigStore τ)
    (haccepts : ∀ (m : τ) space key bytes, (Storage.write m space key bytes).answer = .ok ()) :
    (a.saveAll store).answer =
      ⟨a.controllers.size + a.actuators.size + a.sensors.size, 0, 0, 0⟩ := by
  have hlength : a.stored.length = a.labels.length := by
    have h := congrArg List.length a.keys_records
    rwa [records_eq, List.length_map, List.length_map, List.length_map] at h
  have hanswer : (a.saveAll store).answer =
      ((a.stored.map fun o => (o.1, Except.ok o.2)).foldl saveStep
        ⟨Tally.zero, store, []⟩).answer := by
    rw [saveAll, records_eq]
  rw [hanswer, answer_foldl_saveStep haccepts, hlength, length_labels]
  simp only [Tally.zero, Nat.zero_add]

end Aquarium

end AquariumControl
