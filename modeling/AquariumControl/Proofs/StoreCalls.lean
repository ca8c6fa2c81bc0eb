import AquariumControl.Bench.Probe
import AquariumControl.Bench.Relay
import AquariumControl.Proofs.Configuration
import AquariumControl.Proofs.Keeping

/-!
# The store as a map

A store holds one record for every object, told apart by kind and place, and one for the system.
`RecordId.key_inj` says that no two of these share a key, so a call changes the one record that it
is about.

* `StoreCall` — the calls that change a store: what each is about (`target`) and what it leaves
  there (`left`).
* `ConfigStore.Keeps.perform`, `ConfigStore.Keeps.after` — one call, and any sequence of them: those
  that succeed replace what is held for their target, the others do nothing.
* `ConfigStore.last_success_is_found` — so what is found is what the last success left.
-/

set_option autoImplicit false

namespace AquariumControl

/-! ## Keys -/

/-- What a record is kept for: an object of some kind in a place, or the system. -/
inductive RecordId
  | object (tag : Tag) (place : Fin 128)
  | system
deriving DecidableEq

namespace RecordId

def key : RecordId → String
  | object tag place => Label.text ⟨tag, .slot place⟩
  | system => SystemConfig.recordKey

/-- A label starts with a capital letter, the key of the system does not. -/
theorem object_key_ne_system (tag : Tag) (place : Fin 128) :
    (object tag place).key ≠ system.key := by
  intro h
  have hlists : (Label.text ⟨tag, .slot place⟩).toList = SystemConfig.recordKey.toList :=
    congrArg String.toList h
  rw [Label.toList_text] at hlists
  cases tag with
  | actuator => exact absurd (List.cons.inj hlists).1 (by decide)
  | controller => exact absurd (List.cons.inj hlists).1 (by decide)
  | sensor => exact absurd (List.cons.inj hlists).1 (by decide)

theorem key_inj {i j : RecordId} (h : i.key = j.key) : i = j := by
  cases i with
  | object tag place =>
    cases j with
    | object tag' place' =>
      have hlabels : Label.mk tag (.slot place) = ⟨tag', .slot place'⟩ :=
        Label.text_inj rfl rfl h
      cases hlabels
      rfl
    | system => exact absurd h (object_key_ne_system tag place)
  | system =>
    cases j with
    | object tag place => exact absurd h.symm (object_key_ne_system tag place)
    | system => rfl

end RecordId

/-! ## Calls -/

/-- A call that changes a store. -/
inductive StoreCall (ρ δ σ : Type)
  | writeController (place : Fin 128) (slot : ControllerSlot ρ)
  | writeActuator (place : Fin 128) (slot : ActuatorSlot δ)
  | writeSensor (place : Fin 128) (slot : SensorSlot σ)
  | forget (tag : Tag) (place : Fin 128)
  | saveConfig (config : SystemConfig)

namespace StoreCall

variable {ρ δ σ : Type}

/-- What the call is about. -/
def target : StoreCall ρ δ σ → RecordId
  | writeController place _ => .object .controller place
  | writeActuator place _ => .object .actuator place
  | writeSensor place _ => .object .sensor place
  | forget tag place => .object tag place
  | saveConfig _ => .system

/-- The configuration that the call is to save. -/
def config? : StoreCall ρ δ σ → Option SystemConfig
  | saveConfig config => some config
  | _ => none

/-- The calls about the system are those that save a configuration. -/
theorem filter_system (calls : List (StoreCall ρ δ σ)) :
    calls.filter (fun c => c.target = .system) = (calls.filterMap config?).map saveConfig := by
  induction calls with
  | nil => rfl
  | cons c rest ih =>
    cases c with
    | saveConfig config => exact congrArg (List.cons (saveConfig config)) ih
    | writeController place slot => exact ih
    | writeActuator place slot => exact ih
    | writeSensor place slot => exact ih
    | forget tag place => exact ih

variable [Rule ρ] [Actuator δ] [Sensor σ]

/-- What the call leaves there, if it succeeds: a record, or none. -/
def left : StoreCall ρ δ σ → Option Record
  | writeController place slot => (slot.record (.slot place)).toOption
  | writeActuator place slot => (slot.record (.slot place)).toOption
  | writeSensor place slot => (slot.record (.slot place)).toOption
  | forget _ _ => none
  | saveConfig config => some config.stored

/-- The values after the call has succeeded. -/
def leave (contents : Storage.Contents) (c : StoreCall ρ δ σ) : Storage.Contents :=
  contents.set c.target.key (c.left.map Record.encode)

/-- Of several successes about a record, the last one counts. -/
theorem foldl_leave (calls : List (StoreCall ρ δ σ)) (contents : Storage.Contents)
    (id : RecordId) :
    calls.foldl leave contents id.key =
      ((calls.filter fun c => c.target = id).getLast?).elim (contents id.key) fun c =>
        c.left.map Record.encode := by
  induction calls generalizing contents with
  | nil => rfl
  | cons c rest ih =>
    rw [List.foldl_cons, ih]
    by_cases htarget : c.target = id
    · have hleft : c.leave contents id.key = c.left.map Record.encode := by
        rw [leave, htarget, Storage.Contents.set_self]
      rw [List.filter_cons, if_pos (decide_eq_true htarget), List.getLast?_cons, hleft]
      cases (rest.filter fun c => c.target = id).getLast? <;> rfl
    · have hother : c.leave contents id.key = contents id.key :=
        Storage.Contents.set_of_ne (fun hkey => htarget (RecordId.key_inj hkey).symm) _ _
      rw [List.filter_cons, if_neg (by simpa using htarget), hother]

end StoreCall

namespace ConfigStore

variable {ρ δ σ τ : Type} [Rule ρ] [Actuator δ] [Sensor σ] [Storage τ]

/-- Makes a call, with the answer whether it succeeded. -/
def perform (s : ConfigStore τ) : StoreCall ρ δ σ → Outcome (ConfigStore τ) Bool
  | .writeController place slot =>
    (s.save ⟨.controller, .slot place⟩ (slot.record (.slot place))).map Except.isOk
  | .writeActuator place slot =>
    (s.save ⟨.actuator, .slot place⟩ (slot.record (.slot place))).map Except.isOk
  | .writeSensor place slot =>
    (s.save ⟨.sensor, .slot place⟩ (slot.record (.slot place))).map Except.isOk
  | .forget tag place => (s.forget ⟨tag, .slot place⟩).map Except.isOk
  | .saveConfig config => (s.saveConfig config).map Except.isOk

/-- The store after calls. -/
def after (s : ConfigStore τ) (calls : List (StoreCall ρ δ σ)) : ConfigStore τ :=
  calls.foldl (fun s c => (s.perform c).state) s

/-- The calls that succeed. -/
def successes (s : ConfigStore τ) : List (StoreCall ρ δ σ) → List (StoreCall ρ δ σ)
  | [] => []
  | c :: rest =>
    if (s.perform c).answer then c :: (s.perform c).state.successes rest
    else (s.perform c).state.successes rest

/-- The last call about a record that succeeds. -/
def lastSuccess (s : ConfigStore τ) (calls : List (StoreCall ρ δ σ)) (id : RecordId) :
    Option (StoreCall ρ δ σ) :=
  ((s.successes calls).filter fun c => c.target = id).getLast?

variable {s : ConfigStore τ} {contents : Storage.Contents}

/-- **One call**: it succeeds and leaves something for its target, or nothing changes. -/
theorem Keeps.perform (h : s.Keeps contents) (c : StoreCall ρ δ σ) :
    (s.perform c).answer = true ∧ (s.perform c).state.Keeps (c.leave contents) ∨
      (s.perform c).answer = false ∧ (s.perform c).state.Keeps contents := by
  have hsave : ∀ (key : Label) (record : Except CodecError Record),
      (s.save key record).answer.isOk = true ∧ (s.save key record).state.Keeps
          (contents.set key.text (record.toOption.map Record.encode)) ∨
        (s.save key record).answer.isOk = false ∧ (s.save key record).state.Keeps contents := by
    intro key record
    rcases h.save key record with
      ⟨r, rfl, hok, hkeeps⟩ | ⟨e, -, hfailed, hkeeps⟩ | ⟨r, e, -, hfailed, hkeeps⟩
    · exact .inl ⟨by rw [hok]; rfl, hkeeps⟩
    · exact .inr ⟨by rw [hfailed]; rfl, hkeeps⟩
    · exact .inr ⟨by rw [hfailed]; rfl, hkeeps⟩
  cases c with
  | writeController place slot => exact hsave _ _
  | writeActuator place slot => exact hsave _ _
  | writeSensor place slot => exact hsave _ _
  | forget tag place =>
    rcases h.forget ⟨tag, .slot place⟩ with ⟨hok, hkeeps⟩ | ⟨⟨e, hfailed⟩, hkeeps⟩
    · exact .inl ⟨congrArg Except.isOk hok, hkeeps⟩
    · exact .inr ⟨congrArg Except.isOk hfailed, hkeeps⟩
  | saveConfig config =>
    show (s.saveConfig config).answer.isOk = true ∧ (s.saveConfig config).state.Keeps _ ∨
      (s.saveConfig config).answer.isOk = false ∧ (s.saveConfig config).state.Keeps _
    cases hvalid : config.validate with
    | error e =>
      rw [saveConfig_of_invalid hvalid]
      exact .inr ⟨rfl, h⟩
    | ok _ =>
      obtain ⟨hanswer, hstate⟩ := saveConfig_of_valid hvalid s
      rw [hanswer, hstate]
      rcases h.writeRecord SystemConfig.recordKey config.stored with
        ⟨hok, hkeeps⟩ | ⟨⟨e, hfailed⟩, hkeeps⟩
      · rw [hok]
        exact .inl ⟨rfl, hkeeps⟩
      · rw [hfailed]
        exact .inr ⟨rfl, hkeeps⟩

/-- **Any sequence of calls**: only those that succeed leave something. -/
theorem Keeps.after (h : s.Keeps contents) (calls : List (StoreCall ρ δ σ)) :
    (s.after calls).Keeps ((s.successes calls).foldl StoreCall.leave contents) := by
  induction calls generalizing s contents with
  | nil => exact h
  | cons c rest ih =>
    rcases h.perform c with ⟨hok, hkeeps⟩ | ⟨hfailed, hkeeps⟩
    · rw [successes, if_pos hok]
      exact ih hkeeps
    · rw [successes, hfailed]
      exact ih hkeeps

/-- A configuration that was saved makes sense. -/
theorem valid_of_mem_configs {calls : List (StoreCall ρ δ σ)} {config : SystemConfig}
    (hconfig : config ∈ (s.successes calls).filterMap StoreCall.config?) :
    config.validate = .ok () := by
  induction calls generalizing s with
  | nil => cases hconfig
  | cons c rest ih =>
    rw [successes] at hconfig
    split at hconfig
    · next hok =>
      obtain ⟨c', hc', hsame⟩ := List.mem_filterMap.mp hconfig
      rcases List.mem_cons.mp hc' with rfl | hrest
      · cases c' with
        | saveConfig config' =>
          cases hsame
          cases hvalid : config.validate with
          | ok _ => rfl
          | error e =>
            rw [ConfigStore.perform, saveConfig_of_invalid hvalid] at hok
            cases hok
        | _ => cases hsame
      · exact ih (List.mem_filterMap.mpr ⟨c', hrest, hsame⟩)
    · exact ih hconfig

/-- **What is found is what the last successful call left.**  Let calls about any objects and the
system be made in any order, on a medium that keeps what it is given, but may refuse any of it.
For an object there is the record of the last call about it that succeeded, or none if that call
was to forget it, and what was there before if no call about it succeeded.  For the system the
configuration is loaded that was saved last.  Where nothing has been stored yet, nothing is found
and the default is loaded. -/
theorem last_success_is_found (h : s.Keeps contents) (calls : List (StoreCall ρ δ σ)) :
    (∀ tag place,
      ((s.after calls).readRecord (Label.text ⟨tag, .slot place⟩)).1 =
        (s.lastSuccess calls (.object tag place)).elim
          (s.readRecord (Label.text ⟨tag, .slot place⟩)).1 fun c => .ok c.left) ∧
    ((s.after calls).loadConfig).1 =
      ((s.successes calls).filterMap StoreCall.config?).getLast?.elim (s.loadConfig).1 .ok ∧
    ((∀ id : RecordId, contents id.key = none) →
      (∀ tag place, (s.readRecord (Label.text ⟨tag, .slot place⟩)).1 = .ok none) ∧
        (s.loadConfig).1 = .ok .default) := by
  have hafter := h.after calls
  have hread : ∀ id : RecordId, ((s.after calls).readRecord id.key).1 =
      (s.lastSuccess calls id).elim (s.readRecord id.key).1 fun c => .ok c.left := by
    intro id
    rw [hafter.readRecord, StoreCall.foldl_leave, h.readRecord, lastSuccess]
    cases ((s.successes calls).filter fun c => c.target = id).getLast? with
    | none => rfl
    | some c =>
      dsimp only [Option.elim_some]
      cases c.left with
      | none => rfl
      | some r => exact recordOf_copy r
  have hempty : (∀ id : RecordId, contents id.key = none) →
      ∀ id : RecordId, (s.readRecord id.key).1 = .ok none := by
    intro hnone id
    rw [h.readRecord, hnone id]
    rfl
  refine ⟨fun tag place => hread (.object tag place), ?_, fun hnone => ⟨fun tag place => ?_, ?_⟩⟩
  · have hsystem := hread .system
    rw [lastSuccess, StoreCall.filter_system, List.getLast?_map] at hsystem
    cases hlast : ((s.successes calls).filterMap StoreCall.config?).getLast? with
    | none =>
      rw [hlast] at hsystem
      rw [loadConfig_eq, loadConfig_eq]
      exact congrArg configOf hsystem
    | some config =>
      rw [hlast] at hsystem
      rw [loadConfig_eq]
      exact (congrArg configOf hsystem).trans
        (configOf_stored (valid_of_mem_configs (List.mem_of_getLast? hlast)))
  · exact hempty hnone (.object tag place)
  · rw [loadConfig_eq]
    exact congrArg configOf (hempty hnone .system)

/-- Nothing is stored yet, and there is room for three records to be written. -/
def almostFull : ConfigStore (Faulty Memory) :=
  ⟨⟨Memory.empty, { Faults.none with write := some .full, writesLeft := 3 }⟩, defaultSpace⟩

def lamp : ControllerSlot StandardRule :=
  ⟨Name.ofString "lamp", .unassigned, .schedule .default⟩

def thermostat : ControllerSlot StandardRule :=
  ⟨Name.ofString "heating", .unassigned, .thermostat .default⟩

def slow : SystemConfig :=
  ⟨.polling, 60000, true, 60⟩

/-- The last of these calls is one write too many. -/
def fiveCalls : List (StoreCall StandardRule Relay Probe) :=
  let first : Fin 128 := ⟨1, by decide⟩
  let second : Fin 128 := ⟨12, by decide⟩
  [.writeController first lamp, .writeController second thermostat, .saveConfig slow,
    .forget .controller first, .writeController second lamp]

/-- The lamp timer was forgotten, and the thermostat stays when there is no room for a lamp timer in
its place. -/
theorem thermostat_is_found_again :
    almostFull.Keeps (fun _ => none) ∧
      ((almostFull.after fiveCalls).readRecord "C1").1 = .ok none ∧
      ((almostFull.after fiveCalls).readRecord "C12").1 =
        .ok (some (thermostat.stored (.ofNat 12))) ∧
      ((almostFull.after fiveCalls).loadConfig).1 = .ok slow := by
  have hkeeps : almostFull.Keeps (fun _ => none) :=
    ⟨_, _, Faulty.lawful (Memory.lawful defaultSpace), ⟨trivial, rfl, rfl⟩, rfl⟩
  have hsuccesses : almostFull.successes fiveCalls = fiveCalls.take 4 := by
    rw [fiveCalls, successes, if_pos (by decide +kernel), successes, if_pos (by decide +kernel),
      successes, if_pos (by decide +kernel), successes, if_pos (by decide +kernel), successes,
      if_neg (by decide +kernel), successes]
    rfl
  obtain ⟨hobjects, hconfig, -⟩ := last_success_is_found hkeeps fiveCalls
  have hfirst := hobjects .controller ⟨1, by decide⟩
  have hsecond := hobjects .controller ⟨12, by decide⟩
  refine ⟨hkeeps, hfirst.trans ?_, hsecond.trans ?_, hconfig.trans ?_⟩
  · rw [lastSuccess, hsuccesses]
    rfl
  · rw [lastSuccess, hsuccesses]
    show Except.ok (thermostat.record (.ofNat 12)).toOption = _
    rw [thermostat.record_eq]
    rfl
  · rw [hsuccesses]
    rfl

end ConfigStore

end AquariumControl
