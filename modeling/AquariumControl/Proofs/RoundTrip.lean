import AquariumControl.Aquarium.Cycle
import AquariumControl.Bench.Probe
import AquariumControl.Bench.Relay
import AquariumControl.Proofs.Ownership
import AquariumControl.Proofs.Restore
import AquariumControl.Proofs.Saving

/-!
# Saved and restored

What one aquarium saved, another with the same kinds of object in the same places takes over
completely.  The two halves meet at the records: `Saving` says which record is found under every
label, `Restore` says what an object does with the record it finds, and `describe_encode` says that
such a record describes what was saved.

For the last step the duty of every dimmer must be one, or restoring would refuse it.  No operation
on an aquarium can produce another duty: `Aquarium.Reached` lists them, and
`Aquarium.Reached.allMade` goes through the list.
-/

set_option autoImplicit false

namespace AquariumControl

/-! ## Aquariums that can come about -/

/-- Every output has come about by driving, setting and loading it. -/
def Actuators.AllMade {δ : Type} (actuators : Actuators (StandardOutput δ)) : Prop :=
  ∀ id slot, actuators.get? id = some slot → slot.device.Made

namespace Actuators.AllMade

variable {δ : Type} {actuators actuators' : Actuators (StandardOutput δ)}

theorem empty : AllMade (Actuators.empty : Actuators (StandardOutput δ)) := by
  intro id slot hid
  rw [Actuators.empty, Registry.get?_empty] at hid
  cases hid

theorem addWith (h : AllMade actuators) {make : SlotId → ActuatorSlot (StandardOutput δ)}
    {place : SlotId} (hadd : actuators.addWith make = some (place, actuators'))
    (hmade : (make place).device.Made) : AllMade actuators' := by
  intro id slot hid
  rw [Registry.get?_addWith hadd] at hid
  split at hid
  · rw [← Option.some.inj hid]
    exact hmade
  · exact h id slot hid

theorem remove (h : AllMade actuators) {place : SlotId} {gone : ActuatorSlot (StandardOutput δ)}
    (hremove : actuators.remove place = some (gone, actuators')) : AllMade actuators' := by
  intro id slot hid
  rw [Registry.get?_remove hremove] at hid
  split at hid
  · cases hid
  · exact h id slot hid

/-- Changes that leave every device as it came about. -/
theorem of_map (h : AllMade actuators)
    {f : SlotId → ActuatorSlot (StandardOutput δ) → ActuatorSlot (StandardOutput δ)}
    (hf : ∀ id slot, slot.device.Made → (f id slot).device.Made)
    (hget : ∀ id, actuators'.get? id = (actuators.get? id).map (f id)) : AllMade actuators' := by
  intro id slot hid
  rw [hget] at hid
  obtain ⟨before, hbefore, rfl⟩ := Option.map_eq_some_iff.mp hid
  exact hf id before (h id before hbefore)

end Actuators.AllMade

namespace ActuatorSlot

variable {δ : Type} [Actuator δ] {s : ActuatorSlot (StandardOutput δ)}

theorem made_switch (h : s.device.Made) (on : Bool) : (s.switch on).state.device.Made := by
  have hdrive := StandardOutput.made_drive h on
  rw [switch]
  split
  · exact h
  · split
    · next heq =>
      rw [heq] at hdrive
      exact hdrive
    · next heq =>
      rw [heq] at hdrive
      exact hdrive

theorem made_restore {τ : Type} [Storage τ] (h : s.device.Made) (store : ConfigStore τ)
    (place : SlotId) : (s.restore store place).state.device.Made := by
  have htake : ∀ r, (s.take r).map (fun slot => slot) = s.take r := by
    intro r
    cases s.take r <;> rfl
  have hended := (store.restoration ⟨.actuator, place⟩ s.kind.tag htake s).same_or_described
  rw [restore]
  rcases hended with hsame | ⟨r, htaken⟩
  · rw [hsame]
    exact h
  · obtain ⟨⟨device, used⟩, hload, hslot⟩ := Except.map_eq_ok htaken
    rw [← hslot]
    exact StandardOutput.made_of_load h hload

end ActuatorSlot

theorem Plant.allMade_switch {δ : Type} [Actuator δ] {p : Plant (StandardOutput δ)}
    (h : p.actuators.AllMade) (controller id : SlotId) (on : Bool) :
    (p.switch controller id on).2.actuators.AllMade := by
  intro j slot hj
  rw [get?_switch] at hj
  split at hj
  · obtain ⟨before, hbefore, rfl⟩ := Option.map_eq_some_iff.mp hj
    split
    · exact ActuatorSlot.made_switch (h id before hbefore) on
    · exact h id before hbefore
  · exact h j slot hj

namespace Aquarium

variable {δ σ : Type} [Actuator δ] [Sensor σ]

/-- How an aquarium can come about: it is empty at first, objects are added, removed and assigned,
cycles are run and records are restored.  Whoever holds the aquarium may also change its registries
in place, but an output gets into them only as one that has come about itself. -/
inductive Reached : StandardAquarium δ σ → Prop
  | empty : Reached Aquarium.empty
  | addController {a : StandardAquarium δ σ} (h : Reached a) (name : String)
      (rule : StandardRule) : Reached (a.addController name rule).state
  | addActuator {a : StandardAquarium δ σ} (h : Reached a) (name : String)
      {device : StandardOutput δ} (hdevice : device.Made) :
      Reached (a.addActuator name device).state
  | addSensor {a : StandardAquarium δ σ} (h : Reached a) (name : String)
      (device : StandardSensor σ) : Reached (a.addSensor name device).state
  | removeController {a : StandardAquarium δ σ} (h : Reached a) (id : SlotId) :
      Reached (a.removeController id).state
  | removeActuator {a : StandardAquarium δ σ} (h : Reached a) (id : SlotId) :
      Reached (a.removeActuator id).state
  | removeSensor {a : StandardAquarium δ σ} (h : Reached a) (id : SlotId) :
      Reached (a.removeSensor id).state
  | assignActuator {a a' : StandardAquarium δ σ} (h : Reached a) {actuator controller : SlotId}
      (hok : a.assignActuator actuator controller = .ok a') : Reached a'
  | setControllers {a : StandardAquarium δ σ} (h : Reached a)
      (controllers : Controllers StandardRule) : Reached { a with controllers := controllers }
  | setActuators {a : StandardAquarium δ σ} (h : Reached a)
      {actuators : Actuators (StandardOutput δ)} (hmade : actuators.AllMade) :
      Reached { a with actuators := actuators }
  | setSensors {a : StandardAquarium δ σ} (h : Reached a) (sensors : Sensors (StandardSensor σ)) :
      Reached { a with sensors := sensors }
  | discardTelemetry {a : StandardAquarium δ σ} (h : Reached a) (count : Nat) :
      Reached (a.discardTelemetry count)
  | runCycle {a : StandardAquarium δ σ} (h : Reached a) (uptime : UInt64)
      (time : Option TimeOfDay) : Reached (a.runCycle uptime time).state
  | restoreAll {a : StandardAquarium δ σ} {τ : Type} [Storage τ] (h : Reached a)
      (store : ConfigStore τ) : Reached (a.restoreAll store).state

theorem allMade_runCycle {a : StandardAquarium δ σ} (h : a.actuators.AllMade) (uptime : UInt64)
    (time : Option TimeOfDay) : (a.runCycle uptime time).state.actuators.AllMade := by
  refine a.runCycle_induction uptime time (fun controller _ program p hp => ?_) h
  exact Command.perform_induction (P := fun q => q.actuators.AllMade) controller
    (fun q id on hq => Plant.allMade_switch hq controller id on) (fun _ _ hq => hq) program p hp

theorem allMade_restoreAll {τ : Type} [Storage τ] {a : StandardAquarium δ σ}
    (h : a.actuators.AllMade) (store : ConfigStore τ) :
    (a.restoreAll store).state.actuators.AllMade :=
  h.of_map (fun id _ hmade => ActuatorSlot.made_restore hmade store id) (a.get?_restoreAll store)

/-- **However an aquarium came about, its outputs did so too.** -/
theorem Reached.allMade {a : StandardAquarium δ σ} (h : a.Reached) : a.actuators.AllMade := by
  induction h with
  | empty => exact .empty
  | @addController a h name rule ih =>
    rw [Aquarium.addController]
    split <;> exact ih
  | @addActuator a h name device hdevice ih =>
    rw [Aquarium.addActuator]
    split
    · exact ih
    · next hadd => exact ih.addWith hadd hdevice
  | @addSensor a h name device ih =>
    rw [Aquarium.addSensor]
    split <;> exact ih
  | @removeController a h id ih =>
    rw [Aquarium.removeController]
    split
    · exact ih
    · refine ih.of_map (fun _ slot hmade => ?_) (fun place => Registry.get?_map ..)
      split <;> exact hmade
  | @removeActuator a h id ih =>
    rw [Aquarium.removeActuator]
    split
    · exact ih
    · next hremove => exact ih.remove hremove
  | @removeSensor a h id ih =>
    rw [Aquarium.removeSensor]
    split <;> exact ih
  | @assignActuator a a' h actuator controller hok ih =>
    rw [Aquarium.assignActuator] at hok
    split at hok
    · cases hok
    · split at hok
      · rw [← Except.ok.inj hok]
        intro id slot hid
        rw [Registry.get?_modify] at hid
        split at hid
        · obtain ⟨before, hbefore, rfl⟩ := Option.map_eq_some_iff.mp hid
          exact ih actuator before hbefore
        · exact ih id slot hid
      · cases hok
  | setControllers h controllers ih => exact ih
  | setActuators h hmade ih => exact hmade
  | setSensors h sensors ih => exact ih
  | discardTelemetry h count ih => exact ih
  | runCycle h uptime time ih => exact allMade_runCycle ih uptime time
  | restoreAll h store ih => exact allMade_restoreAll ih store

end Aquarium

/-! ## The same kinds of object -/

/-- Without the ids that no registry has. -/
def ControllerSettings.confined (c : ControllerSettings) : ControllerSettings :=
  { c with parameters := c.parameters.confined }

/-- What decides whether an output can use a record: its kind and the driver. -/
def ActuatorSlot.sort {δ : Type} [Actuator δ] (s : ActuatorSlot (StandardOutput δ)) :
    ActuatorKind × ActuatorKind :=
  (s.kind, s.device.make)

/-- What decides whether a sensor can use a record: its kind and the driver. -/
def SensorSlot.sort {σ : Type} [Sensor σ] (s : SensorSlot (StandardSensor σ)) :
    SensorKind × SensorKind :=
  (s.kind, s.device.make)

/-- To a controller of the same kind a stored record describes what it was made from. -/
theorem ControllerSlot.described_stored {s s' : ControllerSlot StandardRule} (id : SlotId)
    (hkind : s'.kind = s.kind) :
    (s.stored id).kind = s'.kind.tag ∧ s'.described (s.stored id) = .ok s.settings.confined := by
  have hdescribe : s'.rule.describe s.rule.encode = .ok s.rule.parameters :=
    StandardRule.describe_encode hkind
  refine ⟨congrArg RuleKind.tag hkind.symm, ?_⟩
  simp only [described, stored, hdescribe]
  rfl

theorem ActuatorSlot.described_stored {δ : Type} [Actuator δ]
    {s s' : ActuatorSlot (StandardOutput δ)} (id : SlotId) (hmade : s.device.Made)
    (hsort : s'.sort = s.sort) :
    (s.stored id).kind = s'.kind.tag ∧ s'.described (s.stored id) = .ok s.settings := by
  obtain ⟨hkind, hmake⟩ := Prod.mk.inj hsort
  refine ⟨congrArg ActuatorKind.tag hkind.symm, ?_⟩
  simp only [described, stored, StandardOutput.describe_encode hmade hmake]
  rfl

theorem SensorSlot.described_stored {σ : Type} [Sensor σ]
    {s s' : SensorSlot (StandardSensor σ)} (id : SlotId) (hcalibrated : s.device.Calibrated)
    (hsort : s'.sort = s.sort) :
    (s.stored id).kind = s'.kind.tag ∧ s'.described (s.stored id) = .ok s.settings := by
  obtain ⟨hkind, hmake⟩ := Prod.mk.inj hsort
  refine ⟨congrArg SensorKind.tag hkind.symm, ?_⟩
  simp only [described, stored, StandardSensor.describe_encode hcalibrated hmake]
  rfl

/-! ## One registry -/

namespace Registry

variable {α κ S : Type} {capacity : Nat}

/-- **A registry takes over another one**, if there is a record for every place of the other and the
records describe to all objects of one sort the same. -/
theorem Restored.takes_over {given : Label → Except StorageError Block} {tag : Tag}
    {kind : α → UInt8} {described : α → Record → Except CodecError S} {settings : α → S}
    {ending : Label → Except Fault Restore} {before after source : Registry α capacity}
    (h : Restored given tag kind described settings ending before after) {sort : α → κ}
    {stored : α → SlotId → Record} {wanted : α → S}
    (hsort : ∀ id, (before.get? id).map sort = (source.get? id).map sort)
    (hfound : ∀ id s, source.get? id = some s →
      ConfigStore.recordOf (given ⟨tag, id⟩) = .ok (some (stored s id)))
    (hdescribed : ∀ id s s', source.get? id = some s → sort s' = sort s →
      (stored s id).kind = kind s' ∧ described s' (stored s id) = .ok (wanted s)) :
    (∀ l ∈ before.labels tag, ending l = .ok .applied) ∧
      ∀ id, (after.get? id).map settings = (source.get? id).map wanted := by
  have hplace : ∀ id s', before.get? id = some s' →
      ending ⟨tag, id⟩ = .ok .applied ∧
        (after.get? id).map settings = (source.get? id).map wanted := by
    intro id s' hbefore
    have hid := hsort id
    rw [hbefore, Option.map_some] at hid
    obtain ⟨s, hs, hsame⟩ := Option.map_eq_some_iff.mp hid.symm
    obtain ⟨object', found, hafter, hfound', hended⟩ := h.occupied id s' hbefore
    obtain ⟨hkind, hs'⟩ := hdescribed id s s' hs hsame.symm
    rw [ConfigStore.eq_recordOf hfound', hfound id s hs] at hended
    obtain ⟨happlied, hsettings⟩ := hended.of_described hkind hs'
    rw [hafter, hs, Option.map_some, Option.map_some, hsettings]
    exact ⟨happlied, rfl⟩
  constructor
  · rintro ⟨tag', id⟩ hl
    obtain ⟨rfl, hoccupied⟩ := before.mem_labels.mp hl
    obtain ⟨s', hs'⟩ := Option.isSome_iff_exists.mp hoccupied
    exact (hplace id s' hs').1
  · intro id
    cases hbefore : before.get? id with
    | some s' => exact (hplace id s' hbefore).2
    | none =>
      have hid := hsort id
      rw [hbefore, Option.map_none] at hid
      rw [h.free id hbefore, Option.map_eq_none_iff.mp hid.symm, Option.map_none, Option.map_none]

end Registry

/-! ## Whole aquariums -/

theorem Tally.foldl_addRestore_applied (endings : List (Except Fault Restore))
    (h : ∀ ending ∈ endings, ending = .ok .applied) (t : Tally) :
    endings.foldl addRestore t = { t with applied := t.applied + endings.length } := by
  rw [List.eq_replicate_of_mem h, foldl_addRestore]
  simp only [List.countP_replicate, List.length_replicate, Bool.false_eq_true, if_true, if_false,
    Nat.add_zero]

namespace Aquarium

variable {δ σ τ : Type} [Actuator δ] [Sensor σ] [Storage τ]

/-- The same kinds of object in the same places. -/
structure SameKinds (a b : StandardAquarium δ σ) : Prop where
  controllers : ∀ id, (b.controllers.get? id).map ControllerSlot.kind =
    (a.controllers.get? id).map ControllerSlot.kind
  actuators : ∀ id, (b.actuators.get? id).map ActuatorSlot.sort =
    (a.actuators.get? id).map ActuatorSlot.sort
  sensors : ∀ id, (b.sensors.get? id).map SensorSlot.sort =
    (a.sensors.get? id).map SensorSlot.sort

/-- **What one aquarium saved, another takes over completely.**  The first may have come about in
any way, with calibrated thermistors; the medium returns what was written, and saving reported no
failure.  Then restoring an aquarium with the same kinds of object in the same places, whatever
their settings, applies every record, and all settings are those of the first aquarium afterwards,
less the ids of thermostats and top-up rules that no registry has. -/
theorem restoreAll_after_saveAll (a b : StandardAquarium δ σ) (hreached : a.Reached)
    (hcalibrated : ∀ id s, a.sensors.get? id = some s → s.device.Calibrated)
    (store : ConfigStore τ) (hexact : Storage.Exact store.storage)
    (hsaved : (a.saveAll store).answer.failed = 0) (hkinds : a.SameKinds b) :
    (b.restoreAll (a.saveAll store).state).answer =
        ⟨b.controllers.size + b.actuators.size + b.sensors.size, 0, 0, 0⟩ ∧
      (∀ id, ((b.restoreAll (a.saveAll store).state).state.controllers.get? id).map
          ControllerSlot.settings =
        (a.controllers.get? id).map fun s => s.settings.confined) ∧
      (∀ id, ((b.restoreAll (a.saveAll store).state).state.actuators.get? id).map
          ActuatorSlot.settings = (a.actuators.get? id).map ActuatorSlot.settings) ∧
      ∀ id, ((b.restoreAll (a.saveAll store).state).state.sensors.get? id).map
          SensorSlot.settings = (a.sensors.get? id).map SensorSlot.settings := by
  have hmade := hreached.allMade
  obtain ⟨hcontrollers, hactuators, hsensors⟩ := b.restored_restoreAll (a.saveAll store).state
  obtain ⟨hcounts, -⟩ := b.report_restoreAll (a.saveAll store).state
  have hfound := fun l r => a.readRecord_saveAll hexact hsaved (o := (l, r))
  obtain ⟨happlied₁, hsettings₁⟩ := hcontrollers.takes_over hkinds.controllers
    (fun id s hs => hfound _ _ (a.mem_stored_controller hs))
    fun id s s' _ hkind => ControllerSlot.described_stored id hkind
  obtain ⟨happlied₂, hsettings₂⟩ := hactuators.takes_over hkinds.actuators
    (fun id s hs => hfound _ _ (a.mem_stored_actuator hs))
    fun id s s' hs hsort => ActuatorSlot.described_stored id (hmade id s hs) hsort
  obtain ⟨happlied₃, hsettings₃⟩ := hsensors.takes_over hkinds.sensors
    (fun id s hs => hfound _ _ (a.mem_stored_sensor hs))
    fun id s s' hs hsort => SensorSlot.described_stored id (hcalibrated id s hs) hsort
  have happlied : ∀ ending ∈ b.labels.map (b.ending (a.saveAll store).state),
      ending = .ok .applied := by
    intro ending hending
    obtain ⟨l, hl, rfl⟩ := List.mem_map.mp hending
    rw [labels, List.mem_append, List.mem_append] at hl
    rcases hl with (hl | hl) | hl
    · exact happlied₁ l hl
    · exact happlied₂ l hl
    · exact happlied₃ l hl
  refine ⟨?_, hsettings₁, hsettings₂, hsettings₃⟩
  rw [hcounts, Tally.foldl_addRestore_applied _ happlied, List.length_map, length_labels]
  simp only [Tally.zero, Nat.zero_add]

/-- A tank with one object of each kind. -/
def tank (name : String) (rule : StandardRule) (dimmer : Dimmer) (offset : Binary64) :
    StandardAquarium Relay Probe :=
  (((empty.addController name rule).state.addActuator name (.dimmer dimmer)).state.addSensor name
    (.thermistor ⟨.channel 8, offset⟩)).state

theorem get?_tank (name : String) (rule : StandardRule) (dimmer : Dimmer) (offset : Binary64)
    (id : SlotId) :
    (tank name rule dimmer offset).controllers.get? id =
        (if id = .ofNat 0 then some ⟨Name.ofString name, .ofNat 0, rule⟩ else none) ∧
      (tank name rule dimmer offset).actuators.get? id =
        (if id = .ofNat 0 then
          some ⟨Name.ofString name, .ofNat 0, .unassigned, .dimmer dimmer⟩ else none) ∧
      (tank name rule dimmer offset).sensors.get? id =
        if id = .ofNat 0 then
          some ⟨Name.ofString name, .ofNat 0, .thermistor ⟨.channel 8, offset⟩⟩ else none := by
  have hcontroller : Controllers.empty.addWith (fun id => ⟨Name.ofString name, id, rule⟩) =
      some (.ofNat 0, (tank name rule dimmer offset).controllers) := rfl
  have hactuator : Actuators.empty.addWith
      (fun id => ⟨Name.ofString name, id, .unassigned, .dimmer dimmer⟩) =
        some (.ofNat 0, (tank name rule dimmer offset).actuators) := rfl
  have hsensor : Sensors.empty.addWith
      (fun id => ⟨Name.ofString name, id, .thermistor ⟨.channel 8, offset⟩⟩) =
        some (.ofNat 0, (tank name rule dimmer offset).sensors) := rfl
  rw [Registry.get?_addWith hcontroller, Registry.get?_addWith hactuator,
    Registry.get?_addWith hsensor, Controllers.empty, Actuators.empty, Sensors.empty,
    Registry.get?_empty, Registry.get?_empty, Registry.get?_empty]
  exact ⟨rfl, rfl, rfl⟩

/-- A tank whose thermostat has a threshold that is no number and a heater that no registry has
comes back without that heater, and is otherwise as it was saved. -/
theorem comes_back_without_heater :
    let line : Line := ⟨false, 0, 1000, false, 0⟩
    let thermostat := { Thermostat.default with
      low := ⟨0x7ff8000000000001⟩, heater := .ofNat 30, cooler := .ofNat 5 }
    let saved := tank "reef" (.thermostat thermostat)
      ⟨{ line with writes := 1 }, Binary32.one, false⟩ ⟨0xbfe0000000000000⟩
    let other := tank "" (.thermostat Thermostat.default) ⟨line, Binary.zero, true⟩ Binary.zero
    let restored := other.restoreAll
      (saved.saveAll ⟨Memory.empty, ConfigStore.defaultSpace⟩).state
    restored.answer = ⟨3, 0, 0, 0⟩ ∧
      (restored.state.controllers.get? (.ofNat 0)).map ControllerSlot.settings =
        some ⟨Name.ofString "reef",
          (StandardRule.thermostat { thermostat with heater := .unassigned }).parameters⟩ ∧
      (restored.state.actuators.get? (.ofNat 0)).map ActuatorSlot.settings =
        some ⟨Name.ofString "reef", .unassigned, some Binary32.one⟩ ∧
      (restored.state.sensors.get? (.ofNat 0)).map SensorSlot.settings =
        some ⟨Name.ofString "reef", .thermistor ⟨0xbfe0000000000000⟩⟩ := by
  intro line thermostat saved other restored
  have hraw : Dimmer.rawDuty Binary.zero line.maxDuty = 0 := by decide
  have hcreate : Dimmer.create line = .ok ⟨{ line with writes := 1 }, Binary32.one, false⟩ :=
    Dimmer.create_eq (congrArg line.setDuty? hraw)
  have hmade : (StandardOutput.dimmer ⟨{ line with writes := 1 }, Binary32.one, false⟩ :
      StandardOutput Relay).Made := Dimmer.Made.create hcreate
  have hreached : saved.Reached :=
    ((Reached.empty.addController _ _).addActuator _ hmade).addSensor _ _
  have hcalibrated : ∀ id s, saved.sensors.get? id = some s → s.device.Calibrated := by
    intro id s hid
    rw [(get?_tank _ _ _ _ id).2.2] at hid
    split at hid
    · rw [← Option.some.inj hid]
      show Binary.isFinite _ = true
      decide
    · cases hid
  have hkinds : saved.SameKinds other := by
    refine ⟨fun id => ?_, fun id => ?_, fun id => ?_⟩
    · rw [(get?_tank _ _ _ _ id).1, (get?_tank _ _ _ _ id).1]
      split <;> rfl
    · rw [(get?_tank _ _ _ _ id).2.1, (get?_tank _ _ _ _ id).2.1]
      split <;> rfl
    · rw [(get?_tank _ _ _ _ id).2.2, (get?_tank _ _ _ _ id).2.2]
      split <;> rfl
  have hsaved := saved.answer_saveAll ⟨Memory.empty, ConfigStore.defaultSpace⟩
    fun _ _ _ _ => rfl
  obtain ⟨hcounts, hcontrollers, hactuators, hsensors⟩ := restoreAll_after_saveAll saved other
    hreached hcalibrated _ (Memory.exact _) (congrArg Tally.failed hsaved) hkinds
  exact ⟨hcounts, hcontrollers (.ofNat 0), hactuators (.ofNat 0), hsensors (.ofNat 0)⟩

end Aquarium

end AquariumControl
