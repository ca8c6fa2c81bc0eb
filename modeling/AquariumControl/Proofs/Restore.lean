import AquariumControl.Aquarium.Persistence
import AquariumControl.Bench.Probe
import AquariumControl.Bench.Relay
import AquariumControl.Bench.UplinkMode
import AquariumControl.Proofs.Keeping
import AquariumControl.Proofs.Labels
import AquariumControl.Proofs.StoredDrivers

/-!
# What restoring does to every object

Restoring passes over all objects, and each is restored from its own record only.  Whatever that
record is, the object takes over all of it or nothing.

* `ControllerSlot.settings`, `ActuatorSlot.settings`, `SensorSlot.settings` — all that a record
  holds of an object; `described` — what a record says to an object of its kind.
* `Restoration` — the five ways in which restoring one object can end, by what was found under its
  label.
* `Registry.Restored` — a registry whose objects were each restored from what the medium gives for
  them; `Registry.report_mapAccum` — what a pass over a registry counts and reports.
* `Aquarium.restoreAll_takes_all_or_nothing` — the three passes together.
-/

set_option autoImplicit false

namespace AquariumControl

theorem Except.map_map {ε α β γ : Type} (x : Except ε α) (f : α → β) (g : β → γ) :
    (x.map f).map g = x.map fun a => g (f a) := by
  cases x <;> rfl

/-! ## Objects and records -/

/-- All that a record holds of a controller. -/
structure ControllerSettings where
  name : Name
  parameters : RuleParameters
deriving DecidableEq

/-- All that a record holds of an actuator. -/
structure ActuatorSettings where
  name : Name
  controller : SlotId
  parameters : Option Binary32
deriving DecidableEq

/-- All that a record holds of a sensor. -/
structure SensorSettings where
  name : Name
  parameters : SensorParameters
deriving DecidableEq

namespace ControllerSlot

def settings (s : ControllerSlot StandardRule) : ControllerSettings :=
  ⟨s.name, s.rule.parameters⟩

/-- What a record says to a controller, if it says anything.  Ids that no registry has are left
out. -/
def described (s : ControllerSlot StandardRule) (r : Record) :
    Except CodecError ControllerSettings :=
  (s.rule.describe r.payload.val).map fun p => ⟨r.name, p.confined⟩

theorem map_settings_take (s : ControllerSlot StandardRule) (r : Record) :
    (s.take r).map settings = s.described r := by
  have hload := congrArg
    (Except.map fun loaded : RuleKind × RuleParameters => ControllerSettings.mk r.name loaded.2)
    (s.rule.load_eq r.payload.val)
  rw [Except.map_map, Except.map_map] at hload
  rw [take, Except.map_map, described]
  exact hload

end ControllerSlot

namespace ActuatorSlot

variable {δ : Type}

def settings (s : ActuatorSlot (StandardOutput δ)) : ActuatorSettings :=
  ⟨s.name, s.controller, s.device.parameters⟩

/-- What a record says to an actuator, if it says anything. -/
def described (s : ActuatorSlot (StandardOutput δ)) (r : Record) :
    Except CodecError ActuatorSettings :=
  (s.device.describe r.payload.val).map fun p => ⟨r.name, r.controller, p⟩

theorem map_settings_take [Actuator δ] (s : ActuatorSlot (StandardOutput δ)) (r : Record) :
    (s.take r).map settings = s.described r := by
  have hload := congrArg (Except.map fun p => ActuatorSettings.mk r.name r.controller p)
    (s.device.load_eq r.payload.val)
  rw [Except.map_map] at hload
  rw [take, Except.map_map, described]
  exact hload

end ActuatorSlot

namespace SensorSlot

variable {σ : Type}

def settings (s : SensorSlot (StandardSensor σ)) : SensorSettings :=
  ⟨s.name, s.device.parameters⟩

/-- What a record says to a sensor, if it says anything. -/
def described (s : SensorSlot (StandardSensor σ)) (r : Record) : Except CodecError SensorSettings :=
  (s.device.describe r.payload.val).map fun p => ⟨r.name, p⟩

theorem map_settings_take [Sensor σ] (s : SensorSlot (StandardSensor σ)) (r : Record) :
    (s.take r).map settings = s.described r := by
  have hload := congrArg (Except.map fun p => SensorSettings.mk r.name p)
    (s.device.load_eq r.payload.val)
  rw [Except.map_map] at hload
  rw [take, Except.map_map, described]
  exact hload

end SensorSlot

/-! ## What is read -/

namespace ConfigStore

variable {τ : Type} [Storage τ]

/-- What the medium gives for the record of an object. -/
def given (store : ConfigStore τ) (l : Label) : Except StorageError Block :=
  (Storage.read store.storage store.space l.text recordCapacity).1

theorem found_readRecord (store : ConfigStore τ) (l : Label) :
    Found (store.given l) (store.readRecord l.text).1 :=
  found_recordOf (store.given l)

end ConfigStore

/-- The medium raises no events when it is read. -/
def Storage.ReadsQuietly (τ : Type) [Storage τ] : Prop :=
  ∀ (m : τ) space key capacity, Journal.events (Storage.read m space key capacity).2 = []

theorem Memory.readsQuietly : Storage.ReadsQuietly Memory :=
  fun _ _ _ _ => rfl

/-! ## One object -/

/-- **How restoring one object can end**, by what is found under its label: what becomes of the
object, and the answer.  The object stays exactly as it was, or its settings become those that the
record describes. -/
inductive Restoration {α S : Type} (kind : UInt8) (described : Record → Except CodecError S)
    (settings : α → S) :
    Except Fault (Option Record) → α → α → Except Fault Restore → Prop
  | missing (object : α) :
      Restoration kind described settings (.ok none) object object (.ok .notFound)
  | unreadable (object : α) (fault : Fault) :
      Restoration kind described settings (.error fault) object object (.error fault)
  | mismatched (object : α) {r : Record} (hkind : r.kind ≠ kind) :
      Restoration kind described settings (.ok (some r)) object object
        (.ok (.typeMismatch r.kind kind))
  | rejected (object : α) {r : Record} {e : CodecError} (hkind : r.kind = kind)
      (hdescribed : described r = .error e) :
      Restoration kind described settings (.ok (some r)) object object (.error (.codec e))
  | applied (object : α) {object' : α} {r : Record} (hkind : r.kind = kind)
      (hdescribed : described r = .ok (settings object')) :
      Restoration kind described settings (.ok (some r)) object object' (.ok .applied)

section

variable {α S : Type} {kind : UInt8} {described : Record → Except CodecError S} {settings : α → S}
  {object object' : α} {r : Record} {ending : Except Fault Restore}

theorem Restoration.of_none
    (h : Restoration kind described settings (.ok none) object object' ending) :
    object' = object ∧ ending = .ok .notFound := by
  cases h with
  | missing _ => exact ⟨rfl, rfl⟩

theorem Restoration.of_error {fault : Fault}
    (h : Restoration kind described settings (.error fault) object object' ending) :
    object' = object ∧ ending = .error fault := by
  cases h with
  | unreadable _ _ => exact ⟨rfl, rfl⟩

/-- A record of another kind is left alone. -/
theorem Restoration.of_other_kind
    (h : Restoration kind described settings (.ok (some r)) object object' ending)
    (hkind : r.kind ≠ kind) : object' = object ∧ ending = .ok (.typeMismatch r.kind kind) := by
  cases h with
  | mismatched _ _ => exact ⟨rfl, rfl⟩
  | rejected _ hsame _ => exact absurd hsame hkind
  | applied _ hsame _ => exact absurd hsame hkind

/-- A record that describes nothing is left alone. -/
theorem Restoration.of_undescribed {e : CodecError}
    (h : Restoration kind described settings (.ok (some r)) object object' ending)
    (hkind : r.kind = kind) (hdescribed : described r = .error e) :
    object' = object ∧ ending = .error (.codec e) := by
  cases h with
  | mismatched _ hother => exact absurd hkind hother
  | rejected _ _ hrefused =>
    rw [hdescribed] at hrefused
    exact ⟨rfl, by rw [Except.error.inj hrefused]⟩
  | applied _ _ hgiven =>
    rw [hdescribed] at hgiven
    cases hgiven

/-- A record of the right kind that describes something is applied. -/
theorem Restoration.of_described {p : S}
    (h : Restoration kind described settings (.ok (some r)) object object' ending)
    (hkind : r.kind = kind) (hdescribed : described r = .ok p) :
    ending = .ok .applied ∧ settings object' = p := by
  cases h with
  | mismatched _ hother => exact absurd hkind hother
  | rejected _ _ hrefused =>
    rw [hdescribed] at hrefused
    cases hrefused
  | applied _ _ hgiven =>
    rw [hdescribed] at hgiven
    exact ⟨rfl, (Except.ok.inj hgiven).symm⟩

theorem Restoration.same_or_described {found : Except Fault (Option Record)}
    (h : Restoration kind described settings found object object' ending) :
    object' = object ∨ ∃ r, described r = .ok (settings object') := by
  cases h with
  | missing _ => exact .inl rfl
  | unreadable _ _ => exact .inl rfl
  | mismatched _ _ => exact .inl rfl
  | rejected _ _ _ => exact .inl rfl
  | applied _ _ hgiven => exact .inr ⟨_, hgiven⟩

end

namespace ConfigStore

variable {α S τ : Type} [Storage τ]

theorem restoration (store : ConfigStore τ) (key : Label) (kind : UInt8)
    {take : Record → Except CodecError α} {settings : α → S}
    {described : Record → Except CodecError S}
    (htake : ∀ r, (take r).map settings = described r) (object : α) :
    Restoration kind described settings (store.readRecord key.text).1 object
      (store.restore key kind take object).state (store.restore key kind take object).answer := by
  rw [restore]
  rcases store.readRecord key.text with ⟨fault | found, journal⟩
  · exact .unreadable object fault
  · cases found with
    | none => exact .missing object
    | some r =>
      have hr := htake r
      dsimp only
      split
      · next hkind =>
        split
        · next e he =>
          rw [he] at hr
          exact .rejected object hkind hr.symm
        · next object' he =>
          rw [he] at hr
          exact .applied object hkind hr.symm
      · next hkind => exact .mismatched object hkind

/-- What becomes of an object depends on its own record only. -/
theorem state_restore_congr {store other : ConfigStore τ} {key : Label}
    (h : other.given key = store.given key) (kind : UInt8) (take : Record → Except CodecError α)
    (object : α) :
    (other.restore key kind take object).state = (store.restore key kind take object).state := by
  have hfound : (other.readRecord key.text).1 = (store.readRecord key.text).1 :=
    congrArg recordOf h
  rw [restore, restore]
  generalize other.readRecord key.text = read, store.readRecord key.text = read' at hfound ⊢
  obtain ⟨found, journal⟩ := read
  obtain ⟨found', journal'⟩ := read'
  obtain rfl : found = found' := hfound
  rcases found with fault | _ | r
  · rfl
  · rfl
  · dsimp only
    split
    · split <;> rfl
    · rfl

/-- Restoring one object raises no events of its own. -/
theorem events_restore (hquiet : Storage.ReadsQuietly τ) (store : ConfigStore τ) (key : Label)
    (kind : UInt8) (take : Record → Except CodecError α) (object : α) :
    Journal.events (store.restore key kind take object).journal = [] := by
  have hread : Journal.events (store.readRecord key.text).2 = [] := hquiet ..
  rw [restore]
  generalize store.readRecord key.text = read at hread ⊢
  rcases read with ⟨fault | _ | r, journal⟩
  · exact hread
  · exact hread
  · dsimp only
    split
    · split
      · exact hread
      · exact hread
    · rw [Journal.events_append]
      exact List.append_eq_nil_iff.mpr ⟨hread, rfl⟩

end ConfigStore

/-! ## Counts and events -/

/-- How many objects were counted. -/
def Tally.total (t : Tally) : Nat :=
  t.applied + t.notFound + t.mismatched + t.failed

/-- An object is counted once, according to its ending. -/
theorem Tally.foldl_addRestore (endings : List (Except Fault Restore)) (t : Tally) :
    endings.foldl addRestore t =
      ⟨t.applied + endings.countP (· matches .ok .applied),
        t.notFound + endings.countP (· matches .ok .notFound),
        t.mismatched + endings.countP (· matches .ok (.typeMismatch _ _)),
        t.failed + endings.countP (· matches .error _)⟩ := by
  induction endings generalizing t with
  | nil => rfl
  | cons ending rest ih =>
    rw [List.foldl_cons, ih]
    simp only [List.countP_cons, mk.injEq]
    rcases ending with fault | restore
    · simp only [addRestore, Bool.false_eq_true, if_true, if_false]
      omega
    · cases restore <;> simp only [addRestore, Bool.false_eq_true, if_true, if_false] <;> omega

theorem Tally.total_foldl_addRestore (endings : List (Except Fault Restore)) (t : Tally) :
    (endings.foldl addRestore t).total = t.total + endings.length := by
  induction endings generalizing t with
  | nil => rfl
  | cons ending rest ih =>
    rw [List.foldl_cons, ih, List.length_cons]
    rcases ending with fault | restore
    · simp only [addRestore, total]
      omega
    · cases restore <;> simp only [addRestore, total] <;> omega

/-- The one event for an object that was restored, or that has a record that could not be used. -/
def restoreEvent (key : Label) : Except Fault Restore → Option Event
  | .ok .applied => some (.configRestored key)
  | .ok .notFound => none
  | .ok (.typeMismatch stored live) => some (.configTypeMismatch key stored live)
  | .error _ => some (.configFailed key)

theorem events_restoreReport (key : Label) (ending : Except Fault Restore) :
    Journal.events (restoreReport key ending) = (restoreEvent key ending).toList := by
  rcases ending with fault | restore
  · rfl
  · cases restore <;> rfl

/-! ## One registry -/

namespace Registry

variable {α S τ : Type} [Storage τ] {capacity : Nat}

/-- **A registry whose objects were restored**: the same places are occupied, and every object was
restored from what the medium gives for its own label. -/
structure Restored (given : Label → Except StorageError Block) (tag : Tag) (kind : α → UInt8)
    (described : α → Record → Except CodecError S) (settings : α → S)
    (ending : Label → Except Fault Restore) (before after : Registry α capacity) : Prop where
  free : ∀ id, before.get? id = none → after.get? id = none
  occupied : ∀ id object, before.get? id = some object →
    ∃ object' found, after.get? id = some object' ∧ Found (given ⟨tag, id⟩) found ∧
      Restoration (kind object) (described object) settings found object object' (ending ⟨tag, id⟩)

/-- A pass that restores every object from its own record. -/
theorem restored_mapAccum (r : Registry α capacity) {store : ConfigStore τ} {tag : Tag}
    {kind : α → UInt8} {described : α → Record → Except CodecError S} {settings : α → S}
    {take : α → Record → Except CodecError α}
    (htake : ∀ object record, (take object record).map settings = described object record)
    {ending : Label → Except Fault Restore}
    (hending : ∀ id object, r.get? id = some object →
      ending ⟨tag, id⟩ = (store.restore ⟨tag, id⟩ (kind object) (take object) object).answer)
    (acc : Tally × Journal) :
    Restored store.given tag kind described settings ending r
      (r.mapAccum (Aquarium.restoreStep tag fun object id =>
        store.restore ⟨tag, id⟩ (kind object) (take object) object) acc).1 := by
  have hget := fun id => r.get?_mapAccum (f := Aquarium.restoreStep tag fun object id =>
    store.restore ⟨tag, id⟩ (kind object) (take object) object)
    (fun t id object => rfl) acc id
  constructor
  · intro id hid
    rw [hget, hid, Option.map_none]
  · intro id object hid
    refine ⟨(store.restore ⟨tag, id⟩ (kind object) (take object) object).state, _, ?_,
      store.found_readRecord ⟨tag, id⟩, ?_⟩
    · rw [hget, hid, Option.map_some]
    · rw [hending id object hid]
      exact store.restoration ⟨tag, id⟩ (kind object) (htake object) object

/-- What such a pass counts and reports, object by object. -/
theorem report_mapAccum (r : Registry α capacity) {tag : Tag}
    (restore : α → SlotId → Outcome α (Except Fault Restore))
    {ending : Label → Except Fault Restore}
    (hending : ∀ id object, r.get? id = some object →
      ending ⟨tag, id⟩ = (restore object id).answer)
    (acc : Tally × Journal) :
    (r.mapAccum (Aquarium.restoreStep tag restore) acc).2.1 =
        ((r.labels tag).map ending).foldl Tally.addRestore acc.1 ∧
      ((∀ object id, Journal.events (restore object id).journal = []) →
        Journal.events (r.mapAccum (Aquarium.restoreStep tag restore) acc).2.2 =
          Journal.events acc.2 ++
            (r.labels tag).flatMap fun l => (restoreEvent l (ending l)).toList) := by
  have hentries : ∀ e ∈ r.entries, ending ⟨tag, e.1⟩ = (restore e.2 e.1).answer :=
    fun e he => hending e.1 e.2 (r.mem_entries.mp he)
  rw [mapAccum_snd, labels_eq]
  -- object by object; what is known of the endings is known for every part of the list
  revert hentries
  generalize r.entries = entries
  induction entries generalizing acc with
  | nil =>
    intro _
    exact ⟨rfl, fun _ => (List.append_nil _).symm⟩
  | cons e rest ih =>
    intro hentries
    have he := hentries e List.mem_cons_self
    obtain ⟨hcounts, hevents⟩ := ih (Aquarium.restoreStep tag restore acc e.1 e.2).2
      fun later hmem => hentries later (List.mem_cons_of_mem _ hmem)
    refine ⟨?_, fun hquiet => ?_⟩
    · rw [List.foldl_cons, hcounts, List.map_cons, List.map_cons, List.foldl_cons, he]
      rfl
    · have hstep : Journal.events (Aquarium.restoreStep tag restore acc e.1 e.2).2.2 =
          Journal.events acc.2 ++ (restoreEvent ⟨tag, e.1⟩ (ending ⟨tag, e.1⟩)).toList := by
        simp only [Aquarium.restoreStep, Journal.events_append, hquiet, List.append_nil,
          events_restoreReport, he]
      rw [List.foldl_cons, hevents hquiet, hstep, List.map_cons, List.flatMap_cons,
        List.append_assoc]

end Registry

/-! ## All objects -/

namespace Aquarium

section

variable {ρ δ σ τ : Type} [Rule ρ] [Actuator δ] [Sensor σ] [Storage τ] (a : Aquarium ρ δ σ)
  (store : ConfigStore τ)

/-- Restoring moves no controller in or out. -/
theorem contains_restoreAll (id : SlotId) :
    (a.restoreAll store).state.controllers.contains id = a.controllers.contains id :=
  a.controllers.contains_mapAccum _ _ id

theorem get?_controllers_restoreAll (id : SlotId) :
    (a.restoreAll store).state.controllers.get? id =
      (a.controllers.get? id).map fun s => (s.restore store id).state :=
  a.controllers.get?_mapAccum (f := restoreStep .controller fun s => s.restore store)
    (fun _ _ _ => rfl) _ id

theorem get?_restoreAll (id : SlotId) :
    (a.restoreAll store).state.actuators.get? id =
      (a.actuators.get? id).map fun s => (s.restore store id).state :=
  a.actuators.get?_mapAccum (f := restoreStep .actuator fun s => s.restore store)
    (fun _ _ _ => rfl) _ id

theorem get?_sensors_restoreAll (id : SlotId) :
    (a.restoreAll store).state.sensors.get? id =
      (a.sensors.get? id).map fun s => (s.restore store id).state :=
  a.sensors.get?_mapAccum (f := restoreStep .sensor fun s => s.restore store)
    (fun _ _ _ => rfl) _ id

/-- The same object in the place that a label names, or none in both. -/
def SameAt (l : Label) (a b : Aquarium ρ δ σ) : Prop :=
  match l.tag with
  | .controller => a.controllers.get? l.id = b.controllers.get? l.id
  | .actuator => a.actuators.get? l.id = b.actuators.get? l.id
  | .sensor => a.sensors.get? l.id = b.sensors.get? l.id

/-- Of all that the medium gives, only what it gives for an object itself matters to the object. -/
theorem sameAt_restoreAll {store other : ConfigStore τ} {l : Label}
    (h : other.given l = store.given l) :
    SameAt l (a.restoreAll other).state (a.restoreAll store).state := by
  obtain ⟨tag, id⟩ := l
  cases tag with
  | controller =>
    show (a.restoreAll other).state.controllers.get? id = _
    rw [get?_controllers_restoreAll, get?_controllers_restoreAll]
    exact congrArg (Option.map · _) (funext fun s => ConfigStore.state_restore_congr h ..)
  | actuator =>
    show (a.restoreAll other).state.actuators.get? id = _
    rw [get?_restoreAll, get?_restoreAll]
    exact congrArg (Option.map · _) (funext fun s => ConfigStore.state_restore_congr h ..)
  | sensor =>
    show (a.restoreAll other).state.sensors.get? id = _
    rw [get?_sensors_restoreAll, get?_sensors_restoreAll]
    exact congrArg (Option.map · _) (funext fun s => ConfigStore.state_restore_congr h ..)

/-- How restoring the object with a label ends. -/
def ending (l : Label) : Except Fault Restore :=
  match l.tag with
  | .controller =>
    (a.controllers.get? l.id).elim (.ok .notFound) fun s => (s.restore store l.id).answer
  | .actuator =>
    (a.actuators.get? l.id).elim (.ok .notFound) fun s => (s.restore store l.id).answer
  | .sensor =>
    (a.sensors.get? l.id).elim (.ok .notFound) fun s => (s.restore store l.id).answer

theorem ending_controller (id : SlotId) (object : ControllerSlot ρ)
    (hid : a.controllers.get? id = some object) :
    a.ending store ⟨.controller, id⟩ = (object.restore store id).answer := by
  simp only [ending, hid, Option.elim_some]

theorem ending_actuator (id : SlotId) (object : ActuatorSlot δ)
    (hid : a.actuators.get? id = some object) :
    a.ending store ⟨.actuator, id⟩ = (object.restore store id).answer := by
  simp only [ending, hid, Option.elim_some]

theorem ending_sensor (id : SlotId) (object : SensorSlot σ)
    (hid : a.sensors.get? id = some object) :
    a.ending store ⟨.sensor, id⟩ = (object.restore store id).answer := by
  simp only [ending, hid, Option.elim_some]

/-- What restoring everything counts and reports, object by object. -/
theorem report_restoreAll :
    (a.restoreAll store).answer =
        (a.labels.map (a.ending store)).foldl Tally.addRestore Tally.zero ∧
      (Storage.ReadsQuietly τ → Journal.events (a.restoreAll store).journal =
        a.labels.flatMap fun l => (restoreEvent l (a.ending store l)).toList) := by
  -- the three passes, each with the counts and the journal of the one before
  let controllers := a.controllers.mapAccum
    (restoreStep .controller fun s => s.restore store) (Tally.zero, [])
  let actuators := a.actuators.mapAccum
    (restoreStep .actuator fun s => s.restore store) controllers.2
  let sensors := a.sensors.mapAccum (restoreStep .sensor fun s => s.restore store) actuators.2
  obtain ⟨hcounts₁, hevents₁⟩ := a.controllers.report_mapAccum (fun s => s.restore store)
    (a.ending_controller store) (Tally.zero, [])
  obtain ⟨hcounts₂, hevents₂⟩ := a.actuators.report_mapAccum (fun s => s.restore store)
    (a.ending_actuator store) controllers.2
  obtain ⟨hcounts₃, hevents₃⟩ := a.sensors.report_mapAccum (fun s => s.restore store)
    (a.ending_sensor store) actuators.2
  refine ⟨?_, fun hquiet => ?_⟩
  · have hanswer : (a.restoreAll store).answer = sensors.2.1 := rfl
    rw [hanswer, hcounts₃, hcounts₂, hcounts₁, labels, List.map_append, List.map_append,
      List.foldl_append, List.foldl_append]
  · have hjournal : (a.restoreAll store).journal =
        sensors.2.2 ++ [.notice (.restored sensors.2.1)] := rfl
    have hsilent : ∀ key kind {α : Type} (take : Record → Except CodecError α) object,
        Journal.events (store.restore key kind take object).journal = [] :=
      fun _ _ _ _ _ => ConfigStore.events_restore hquiet ..
    rw [hjournal, Journal.events_append, hevents₃ (fun _ _ => hsilent ..),
      hevents₂ (fun _ _ => hsilent ..), hevents₁ (fun _ _ => hsilent ..), labels,
      List.flatMap_append, List.flatMap_append]
    exact List.append_nil _

end

variable {δ σ τ : Type} [Actuator δ] [Sensor σ] [Storage τ]

/-- Every object is restored from its own record. -/
theorem restored_restoreAll (a : StandardAquarium δ σ) (store : ConfigStore τ) :
    Registry.Restored store.given .controller (fun s => s.kind.tag) ControllerSlot.described
        ControllerSlot.settings (a.ending store) a.controllers
        (a.restoreAll store).state.controllers ∧
      Registry.Restored store.given .actuator (fun s => s.kind.tag) ActuatorSlot.described
        ActuatorSlot.settings (a.ending store) a.actuators (a.restoreAll store).state.actuators ∧
      Registry.Restored store.given .sensor (fun s => s.kind.tag) SensorSlot.described
        SensorSlot.settings (a.ending store) a.sensors (a.restoreAll store).state.sensors := by
  refine ⟨?_, ?_, ?_⟩
  · exact a.controllers.restored_mapAccum ControllerSlot.map_settings_take
      (a.ending_controller store) _
  · exact a.actuators.restored_mapAccum ActuatorSlot.map_settings_take (a.ending_actuator store) _
  · exact a.sensors.restored_mapAccum SensorSlot.map_settings_take (a.ending_sensor store) _

/-- **Every object takes over all of its record or nothing.**  Whatever the medium gives, and
however it fails to, the same places are occupied after restoring as before, and every object was
restored from what the medium gives for its own label: it is exactly as before, or has the settings
that the record there describes.  On a medium that keeps what it is given, these are the bytes under
the object's key.  What the medium gives for other labels does not matter to the object.  Every
object is counted once, by its ending; and if the medium raises no events itself there is one event
for every object but those without a record, in the order of controllers, actuators and sensors,
each by ascending place. -/
theorem restoreAll_takes_all_or_nothing (a : StandardAquarium δ σ) (store : ConfigStore τ) :
    ∃ ending : Label → Except Fault Restore,
      Registry.Restored store.given .controller (fun s => s.kind.tag) ControllerSlot.described
        ControllerSlot.settings ending a.controllers (a.restoreAll store).state.controllers ∧
      Registry.Restored store.given .actuator (fun s => s.kind.tag) ActuatorSlot.described
        ActuatorSlot.settings ending a.actuators (a.restoreAll store).state.actuators ∧
      Registry.Restored store.given .sensor (fun s => s.kind.tag) SensorSlot.described
        SensorSlot.settings ending a.sensors (a.restoreAll store).state.sensors ∧
      (∀ contents, store.Keeps contents →
        ∀ l : Label, store.given l = Storage.copy (contents l.text) recordCapacity) ∧
      (∀ (other : ConfigStore τ) (l : Label), other.given l = store.given l →
        SameAt l (a.restoreAll other).state (a.restoreAll store).state) ∧
      (a.restoreAll store).answer =
        ⟨a.labels.countP (ending · matches .ok .applied),
          a.labels.countP (ending · matches .ok .notFound),
          a.labels.countP (ending · matches .ok (.typeMismatch _ _)),
          a.labels.countP (ending · matches .error _)⟩ ∧
      (a.restoreAll store).answer.total =
        a.controllers.size + a.actuators.size + a.sensors.size ∧
      (Storage.ReadsQuietly τ → Journal.events (a.restoreAll store).journal =
        a.labels.flatMap fun l => (restoreEvent l (ending l)).toList) := by
  obtain ⟨hcontrollers, hactuators, hsensors⟩ := a.restored_restoreAll store
  obtain ⟨hcounts, hevents⟩ := a.report_restoreAll store
  refine ⟨a.ending store, hcontrollers, hactuators, hsensors, fun contents hkeeps l => ?_,
    fun other l => a.sameAt_restoreAll, ?_, ?_, hevents⟩
  · exact Storage.Keeps.read hkeeps l.text recordCapacity
  · rw [hcounts, Tally.foldl_addRestore]
    simp only [Tally.zero, Nat.zero_add, List.countP_map, Function.comp_def]
  · rw [hcounts, Tally.total_foldl_addRestore, List.length_map, length_labels]
    exact Nat.zero_add _

/-- Two top-up rules, two dimmers and a probe. -/
def patchwork : StandardAquarium Relay Probe :=
  let dimmer : StandardOutput Relay := .dimmer ⟨⟨false, 0, 1000, false, 0⟩, Binary.zero, false⟩
  (((((empty.addController "left" (.topUp .default)).state.addController "right"
    (.topUp .default)).state.addActuator "blue" dimmer).state.addActuator "white"
      dimmer).state.addSensor "probe" (.other .silent)).state

/-- The record of a top-up rule. -/
def sump : Record :=
  let rule : TopUp := { TopUp.default with sensor := .ofNat 2, timeout := 60 }
  ⟨RuleKind.topUp.tag, .ofNat 0, .unassigned, .unassigned, Name.ofString "sump",
    ⟨rule.encode, by decide⟩⟩

/-- The same record under the kind of a timer. -/
def clock : Record :=
  { sump with kind := RuleKind.schedule.tag }

/-- The record of a dimmer with a duty that is no number. -/
def faded : Record :=
  ⟨ActuatorKind.dimmer.tag, .unassigned, .ofNat 1, .unassigned, Name.ofString "red",
    ⟨[0, 0, 0xc0, 0x7f], by decide⟩⟩

/-- A record for the first rule and that of a timer for the second, bytes that are no record for the
first dimmer and a record that it cannot use for the second. -/
def rummage : ConfigStore Memory :=
  let key (text : String) := (ConfigStore.defaultSpace, text)
  ⟨⟨(((Table.empty.put (key "C0") sump.encode).put (key "C1") clock.encode).put (key "A0")
    [0xff, 0xff, 0xff, 0xff]).put (key "A1") faded.encode⟩, ConfigStore.defaultSpace⟩

/-- Of five objects only the one with a record that it can use changes, and it takes over all of
it. -/
theorem only_first_rule_changes :
    let restored := patchwork.restoreAll rummage
    (restored.state.controllers.get? (.ofNat 0)).map ControllerSlot.settings =
        some ⟨Name.ofString "sump", .topUp (.ofNat 2) 10 3 60⟩ ∧
      restored.state.controllers.get? (.ofNat 1) = patchwork.controllers.get? (.ofNat 1) ∧
      restored.state.actuators.get? (.ofNat 0) = patchwork.actuators.get? (.ofNat 0) ∧
      restored.state.actuators.get? (.ofNat 1) = patchwork.actuators.get? (.ofNat 1) ∧
      restored.state.sensors.get? (.ofNat 0) = patchwork.sensors.get? (.ofNat 0) ∧
      restored.answer = ⟨1, 1, 1, 2⟩ ∧
      Journal.events restored.journal =
        [.configRestored ⟨.controller, .ofNat 0⟩,
          .configTypeMismatch ⟨.controller, .ofNat 1⟩ RuleKind.schedule.tag RuleKind.topUp.tag,
          .configFailed ⟨.actuator, .ofNat 0⟩, .configFailed ⟨.actuator, .ofNat 1⟩] := by
  intro restored
  obtain ⟨ending, hcontrollers, hactuators, hsensors, hmedium, -, hcounts, -, hevents⟩ :=
    restoreAll_takes_all_or_nothing patchwork rummage
  have hgiven := hmedium _ ⟨_, _, Memory.lawful ConfigStore.defaultSpace, trivial, rfl⟩
  -- what is found for an object is decided by the bytes under its key
  have hfound : ∀ {l : Label} {found} (bytes : Option (List UInt8)),
      Found (rummage.given l) found →
        rummage.storage.table.get? (ConfigStore.defaultSpace, l.text) = bytes →
          found = ConfigStore.recordOf (Storage.copy bytes recordCapacity) := by
    rintro l found _ h rfl
    rw [ConfigStore.eq_recordOf h, hgiven]
  obtain ⟨_, _, hleft, hfound₁, hended₁⟩ := hcontrollers.occupied (.ofNat 0) _ rfl
  obtain ⟨_, _, hright, hfound₂, hended₂⟩ := hcontrollers.occupied (.ofNat 1) _ rfl
  obtain ⟨_, _, hblue, hfound₃, hended₃⟩ := hactuators.occupied (.ofNat 0) _ rfl
  obtain ⟨_, _, hwhite, hfound₄, hended₄⟩ := hactuators.occupied (.ofNat 1) _ rfl
  obtain ⟨_, _, hprobe, hfound₅, hended₅⟩ := hsensors.occupied (.ofNat 0) _ rfl
  rw [hfound (some sump.encode) hfound₁ (by decide +kernel), ConfigStore.recordOf_copy] at hended₁
  rw [hfound (some clock.encode) hfound₂ (by decide +kernel), ConfigStore.recordOf_copy] at hended₂
  rw [hfound (some [0xff, 0xff, 0xff, 0xff]) hfound₃ (by decide +kernel)] at hended₃
  rw [hfound (some faded.encode) hfound₄ (by decide +kernel), ConfigStore.recordOf_copy] at hended₄
  rw [hfound none hfound₅ (by decide +kernel)] at hended₅
  obtain ⟨happlied, hsettings⟩ := hended₁.of_described rfl rfl
  obtain ⟨rfl, hmismatched⟩ := hended₂.of_other_kind (by decide)
  obtain ⟨rfl, hgarbled⟩ := hended₃.of_error
  obtain ⟨rfl, hrejected⟩ := hended₄.of_undescribed rfl rfl
  obtain ⟨rfl, hmissing⟩ := hended₅.of_none
  have hlabels : patchwork.labels = [⟨.controller, .ofNat 0⟩, ⟨.controller, .ofNat 1⟩,
      ⟨.actuator, .ofNat 0⟩, ⟨.actuator, .ofNat 1⟩, ⟨.sensor, .ofNat 0⟩] := by decide +kernel
  refine ⟨?_, hright, hblue, hwhite, hprobe, ?_, ?_⟩
  · rw [hleft, Option.map_some, hsettings]
    rfl
  · rw [hcounts, hlabels]
    simp only [List.countP_cons, happlied, hmismatched, hgarbled, hrejected, hmissing]
    rfl
  · rw [hevents Memory.readsQuietly, hlabels]
    simp only [List.flatMap_cons, happlied, hmismatched, hgarbled, hrejected, hmissing]
    rfl

end Aquarium

end AquariumControl
