import AquariumControl.Aquarium.Persistence
import AquariumControl.Proofs.Group
import AquariumControl.Proofs.Ownership

/-!
# Who an actuator is assigned to

An actuator names the controller it is assigned to by its place, and places are given to new
controllers when they become free.  Nothing goes wrong with that, because no operation leaves an
assignment behind whose controller is gone.

* `Aquarium.LiveAssignments` — every actuator is assigned to a registered controller or to none.
* `Aquarium.Operation` and `Aquarium.operate` — histories of an aquarium and the store that it is
  saved to.
* `Aquarium.LiveAssignments.after` — every operation keeps assignments live.
* `Aquarium.mem_assignedIds_addController` — the actuators that a new controller finds.
* `Aquarium.get?_after_of_unassigned` — an actuator of nobody stays exactly as it is until it is
  assigned or removed.
-/

set_option autoImplicit false

namespace AquariumControl

namespace Aquarium

/-- What can be done to an aquarium, short of loading anything from a store. -/
inductive Operation (ρ δ σ : Type)
  | addController (name : String) (rule : ρ)
  | addActuator (name : String) (device : δ)
  | addSensor (name : String) (device : σ)
  | removeController (id : SlotId)
  | removeActuator (id : SlotId)
  | removeSensor (id : SlotId)
  | assignActuator (actuator controller : SlotId)
  | runCycle (uptime : UInt64) (time : Option TimeOfDay)
  | saveAll

variable {ρ δ σ : Type}

/-- What an actuator of nobody does not outlast: it is removed, or assigned to a registered
controller. -/
def Operation.Claims (a : Aquarium ρ δ σ) (id : SlotId) : Operation ρ δ σ → Prop
  | .removeActuator actuator => actuator = id
  | .assignActuator actuator controller =>
    actuator = id ∧ a.controllers.contains controller = true
  | _ => False

/-- Every actuator is assigned to a registered controller or to none. -/
def LiveAssignments (a : Aquarium ρ δ σ) : Prop :=
  ∀ id slot, a.actuators.get? id = some slot →
    slot.controller = .unassigned ∨ a.controllers.contains slot.controller = true

namespace LiveAssignments

variable {a a' : Aquarium ρ δ σ}

theorem empty : (Aquarium.empty : Aquarium ρ δ σ).LiveAssignments := by
  intro id slot hid
  rw [Aquarium.empty, Actuators.empty, Registry.get?_empty] at hid
  cases hid

/-- Nothing goes wrong while controllers stay and nobody is assigned to anyone. -/
theorem mono (h : a.LiveAssignments)
    (hcontrollers : ∀ id, a.controllers.contains id = true → a'.controllers.contains id = true)
    (hactuators : ∀ id slot', a'.actuators.get? id = some slot' →
      slot'.controller = .unassigned ∨
        ∃ slot, a.actuators.get? id = some slot ∧ slot.controller = slot'.controller) :
    a'.LiveAssignments := by
  intro id slot' hid
  rcases hactuators id slot' hid with hnone | ⟨slot, hslot, hsame⟩
  · exact .inl hnone
  · rw [← hsame]
    exact (h id slot hslot).imp_right (hcontrollers _)

theorem addController (h : a.LiveAssignments) (name : String) (rule : ρ) :
    (a.addController name rule).state.LiveAssignments := by
  rw [Aquarium.addController]
  split
  · exact h
  · next hadd =>
    refine h.mono (fun id hid => ?_) fun id slot hslot => .inr ⟨slot, hslot, rfl⟩
    rw [Registry.contains, Registry.get?_addWith hadd]
    split
    · rfl
    · exact hid

theorem addActuator (h : a.LiveAssignments) (name : String) (device : δ) :
    (a.addActuator name device).state.LiveAssignments := by
  rw [Aquarium.addActuator]
  split
  · exact h
  · next hadd =>
    refine h.mono (fun _ hid => hid) fun id slot hslot => ?_
    rw [Registry.get?_addWith hadd] at hslot
    split at hslot
    · exact .inl (Option.some.inj hslot ▸ rfl)
    · exact .inr ⟨slot, hslot, rfl⟩

theorem addSensor (h : a.LiveAssignments) (name : String) (device : σ) :
    (a.addSensor name device).state.LiveAssignments := by
  rw [Aquarium.addSensor]
  split <;> exact h

/-- The removed controller is nobody's any more, and no other has gone. -/
theorem removeController (h : a.LiveAssignments) (id : SlotId) :
    (a.removeController id).state.LiveAssignments := by
  rw [Aquarium.removeController]
  split
  · exact h
  · next hremove =>
    intro j slot' hj
    rw [Registry.get?_map] at hj
    obtain ⟨slot, hslot, rfl⟩ := Option.map_eq_some_iff.mp hj
    by_cases hc : slot.controller = id
    · rw [if_pos hc]
      exact .inl rfl
    · rw [if_neg hc, Registry.contains, Registry.get?_remove hremove, if_neg hc]
      exact h j slot hslot

theorem removeActuator (h : a.LiveAssignments) (id : SlotId) :
    (a.removeActuator id).state.LiveAssignments := by
  rw [Aquarium.removeActuator]
  split
  · exact h
  · next hremove =>
    refine h.mono (fun _ hid => hid) fun j slot hslot => ?_
    rw [Registry.get?_remove hremove] at hslot
    split at hslot
    · cases hslot
    · exact .inr ⟨slot, hslot, rfl⟩

theorem removeSensor (h : a.LiveAssignments) (id : SlotId) :
    (a.removeSensor id).state.LiveAssignments := by
  rw [Aquarium.removeSensor]
  split <;> exact h

/-- An assignment is accepted only if its controller is registered or it names none. -/
theorem assignActuator (h : a.LiveAssignments) {actuator controller : SlotId}
    (hok : a.assignActuator actuator controller = .ok a') : a'.LiveAssignments := by
  rw [Aquarium.assignActuator] at hok
  split at hok
  · cases hok
  · next hvalid =>
    split at hok
    · rw [← Except.ok.inj hok]
      intro id slot' hid
      rw [Registry.get?_modify] at hid
      split at hid
      · obtain ⟨slot, -, rfl⟩ := Option.map_eq_some_iff.mp hid
        cases controller with
        | unassigned => exact .inl rfl
        | slot i => exact .inr (by simpa [SlotId.isAssigned] using hvalid)
      · exact h id slot' hid
    · cases hok

theorem runCycle [Rule ρ] [Actuator δ] [Sensor σ] (h : a.LiveAssignments) (uptime : UInt64)
    (time : Option TimeOfDay) : (a.runCycle uptime time).state.LiveAssignments := by
  refine h.mono (fun id hid => ?_) fun id slot' hid => .inr ?_
  · exact (a.controllers.contains_mapAccum _ _ id).trans hid
  · have hidentity := a.identity_runCycle uptime time id
    rw [hid, Option.map_some] at hidentity
    obtain ⟨slot, hslot, hsame⟩ := Option.map_eq_some_iff.mp hidentity.symm
    exact ⟨slot, hslot, congrArg (·.2.2) hsame⟩

end LiveAssignments

/-! ## New controllers and new actuators -/

/-- A new controller gets a place that was free, and finds the actuators that name it. -/
theorem mem_assignedIds_addController {a : Aquarium ρ δ σ} {name : String} {rule : ρ} {id : SlotId}
    (hadd : (a.addController name rule).answer = some id) :
    a.controllers.contains id = false ∧
      (a.addController name rule).state.controllers.contains id = true ∧
      ∀ j, j ∈ (a.addController name rule).state.assignedIds id ↔
        ∃ slot, a.actuators.get? j = some slot ∧ slot.controller = id := by
  rw [addController] at hadd ⊢
  split at hadd
  · cases hadd
  · next place controllers heq =>
    obtain rfl : place = id := Option.some.inj hadd
    have hnew : controllers.contains place = true := by
      rw [Registry.contains, Registry.get?_addWith heq, if_pos rfl]
      rfl
    have hassigned : place.isAssigned = true := by
      cases place with
      | unassigned => cases hnew
      | slot i => rfl
    refine ⟨?_, hnew, fun j => ?_⟩
    · rw [Registry.contains, Registry.free_of_addWith heq]
      rfl
    · rw [assignedIds, if_pos hnew, Actuators.mem_assignedIds]
      simp only [hassigned, true_and]

/-- A new controller has no actuators, also in a place that others had before it. -/
theorem assignedIds_addController {a : Aquarium ρ δ σ} (h : a.LiveAssignments) {name : String}
    {rule : ρ} {id : SlotId} (hadd : (a.addController name rule).answer = some id) :
    (a.addController name rule).state.controllers.contains id = true ∧
      (a.addController name rule).state.assignedIds id = [] := by
  obtain ⟨hfree, hnew, hmem⟩ := mem_assignedIds_addController hadd
  refine ⟨hnew, List.eq_nil_iff_forall_not_mem.mpr fun j hj => ?_⟩
  obtain ⟨slot, hslot, rfl⟩ := (hmem j).mp hj
  rcases h j slot hslot with hnone | hlive
  · rw [hnone] at hnew
    cases hnew
  · rw [hlive] at hfree
    cases hfree

theorem get?_addActuator {a : Aquarium ρ δ σ} {name : String} {device : δ} {id : SlotId}
    (hadd : (a.addActuator name device).answer = some id) :
    (a.addActuator name device).state.actuators.get? id =
      some ⟨Name.ofString name, id, .unassigned, device⟩ := by
  rw [addActuator] at hadd ⊢
  split at hadd
  · cases hadd
  · next place actuators heq =>
    obtain rfl : place = id := Option.some.inj hadd
    rw [Registry.get?_addWith heq, if_pos rfl]

/-! ## Histories -/

section

variable [Rule ρ] [Actuator δ] [Sensor σ] {τ : Type} [Storage τ]

/-- The aquarium and its store after an operation.  An assignment that is refused changes
nothing. -/
def Operation.after (s : Aquarium ρ δ σ × ConfigStore τ) :
    Operation ρ δ σ → Aquarium ρ δ σ × ConfigStore τ
  | .addController name rule => ((s.1.addController name rule).state, s.2)
  | .addActuator name device => ((s.1.addActuator name device).state, s.2)
  | .addSensor name device => ((s.1.addSensor name device).state, s.2)
  | .removeController id => ((s.1.removeController id).state, s.2)
  | .removeActuator id => ((s.1.removeActuator id).state, s.2)
  | .removeSensor id => ((s.1.removeSensor id).state, s.2)
  | .assignActuator actuator controller =>
    match s.1.assignActuator actuator controller with
    | .ok a => (a, s.2)
    | .error _ => s
  | .runCycle uptime time => ((s.1.runCycle uptime time).state, s.2)
  | .saveAll => (s.1, (s.1.saveAll s.2).state)

/-- The aquarium and its store after a history. -/
def operate (s : Aquarium ρ δ σ × ConfigStore τ) (history : List (Operation ρ δ σ)) :
    Aquarium ρ δ σ × ConfigStore τ :=
  history.foldl Operation.after s

/-- **Every operation keeps assignments live.** -/
theorem LiveAssignments.after {s : Aquarium ρ δ σ × ConfigStore τ} (h : s.1.LiveAssignments)
    (op : Operation ρ δ σ) : (op.after s).1.LiveAssignments := by
  cases op with
  | addController name rule => exact h.addController name rule
  | addActuator name device => exact h.addActuator name device
  | addSensor name device => exact h.addSensor name device
  | removeController id => exact h.removeController id
  | removeActuator id => exact h.removeActuator id
  | removeSensor id => exact h.removeSensor id
  | assignActuator actuator controller =>
    rw [Operation.after]
    split
    · next hok => exact h.assignActuator hok
    · exact h
  | runCycle uptime time => exact h.runCycle uptime time
  | saveAll => exact h

theorem LiveAssignments.operate {s : Aquarium ρ δ σ × ConfigStore τ} (h : s.1.LiveAssignments)
    (history : List (Operation ρ δ σ)) : (operate s history).1.LiveAssignments := by
  induction history generalizing s with
  | nil => exact h
  | cons op rest ih => exact ih (h.after op)

/-- **An actuator of nobody stays exactly as it is**, its driver included, until it is assigned or
removed. -/
theorem get?_after_of_unassigned {s : Aquarium ρ δ σ × ConfigStore τ} {id : SlotId}
    {slot : ActuatorSlot δ} (hid : s.1.actuators.get? id = some slot)
    (hnobody : slot.controller = .unassigned) {op : Operation ρ δ σ} (hop : ¬ op.Claims s.1 id) :
    (op.after s).1.actuators.get? id = some slot := by
  cases op with
  | addController name rule =>
    rw [Operation.after, addController]
    split <;> exact hid
  | addActuator name device =>
    rw [Operation.after, addActuator]
    split
    · exact hid
    · next place actuators hadd =>
      have hne : id ≠ place := by
        rintro rfl
        rw [Registry.free_of_addWith hadd] at hid
        cases hid
      exact (Registry.get?_addWith hadd id).trans ((if_neg hne).trans hid)
  | addSensor name device =>
    rw [Operation.after, addSensor]
    split <;> exact hid
  | removeController gone =>
    rw [Operation.after, removeController]
    split
    · exact hid
    · rw [Registry.get?_map, hid, Option.map_some, hnobody, ← hnobody, ite_self]
  | removeActuator gone =>
    have hne : id ≠ gone := fun h => hop h.symm
    rw [Operation.after, removeActuator]
    split
    · exact hid
    · next hremove => exact (Registry.get?_remove hremove id).trans ((if_neg hne).trans hid)
  | removeSensor gone =>
    rw [Operation.after, removeSensor]
    split <;> exact hid
  | assignActuator actuator controller =>
    rw [Operation.after]
    split
    · next a hok =>
      rw [assignActuator] at hok
      split at hok
      · cases hok
      · next hvalid =>
        split at hok
        · rw [← Except.ok.inj hok, Registry.get?_modify]
          by_cases hactuator : id = actuator
          · -- only an assignment to nobody is accepted here, and that is what it had
            have hnone : controller = .unassigned := by
              cases controller with
              | unassigned => rfl
              | slot i =>
                have hregistered : s.1.controllers.contains (.slot i) = true := by
                  simpa [SlotId.isAssigned] using hvalid
                exact absurd ⟨hactuator.symm, hregistered⟩ hop
            rw [if_pos hactuator, ← hactuator, hid, Option.map_some, hnone, ← hnobody]
          · rw [if_neg hactuator, hid]
        · cases hok
    · exact hid
  | runCycle uptime time =>
    refine (s.1.get?_runCycle_of_controllerOf uptime time ?_).trans hid
    simp only [controllerOf, hid, hnobody]
    rfl
  | saveAll => exact hid

theorem get?_operate_of_unassigned {s : Aquarium ρ δ σ × ConfigStore τ} {id : SlotId}
    {slot : ActuatorSlot δ} (hid : s.1.actuators.get? id = some slot)
    (hnobody : slot.controller = .unassigned) (history : List (Operation ρ δ σ))
    (hhistory : ∀ front op back, history = front ++ op :: back →
      ¬ op.Claims (operate s front).1 id) :
    (operate s history).1.actuators.get? id = some slot := by
  induction history generalizing s with
  | nil => exact hid
  | cons op rest ih =>
    refine ih (get?_after_of_unassigned hid hnobody (hhistory [] op rest rfl)) ?_
    intro front later back hrest
    exact hhistory (op :: front) later back (by rw [hrest, List.cons_append])

/-- **Assignments stay live.**  Whatever is done to an aquarium, with any ids and whether it
succeeds or not, every actuator is assigned to a registered controller or to none.  So a new
controller starts with no actuators, also in a place that became free, and no rule drives a new
actuator until it is assigned: whatever else is done, the actuator and its driver stay as they
came. -/
theorem assignments_stay_live (history : List (Operation ρ δ σ)) (store : ConfigStore τ) :
    let a := (operate (Aquarium.empty, store) history).1
    a.LiveAssignments ∧
      (∀ name rule id, (a.addController name rule).answer = some id →
        (a.addController name rule).state.controllers.contains id = true ∧
          (a.addController name rule).state.assignedIds id = []) ∧
      ∀ name device id, (a.addActuator name device).answer = some id →
        ∀ (later : List (Operation ρ δ σ)) (store' : ConfigStore τ),
          (∀ front op back, later = front ++ op :: back →
            ¬ op.Claims (operate ((a.addActuator name device).state, store') front).1 id) →
          (operate ((a.addActuator name device).state, store') later).1.actuators.get? id =
            some ⟨Name.ofString name, id, .unassigned, device⟩ := by
  intro a
  have hlive : a.LiveAssignments :=
    LiveAssignments.operate (s := (Aquarium.empty, store)) .empty history
  refine ⟨hlive, fun name rule id hadd => assignedIds_addController hlive hadd, ?_⟩
  intro name device id hadd later store' hlater
  exact get?_operate_of_unassigned (get?_addActuator hadd) rfl later hlater

end

/-- A script with the given actions. -/
def scripted (actions : List ScriptAction) : AnyRule :=
  .script { Script.default with actions := actions }

/-- A script comes and is given a pump. -/
def takeover : List (Operation AnyRule Relay Probe) :=
  [.addController "owner" (scripted []), .addActuator "pump" Relay.idle,
    .assignActuator (.ofNat 0) (.ofNat 0)]

/-- The script goes again. -/
def departure : List (Operation AnyRule Relay Probe) :=
  takeover ++ [.saveAll, .removeController (.ofNat 0)]

/-- A script comes that goes for everything there is.  The second actuator is to be given to a
controller that does not exist. -/
def arrival : List (Operation AnyRule Relay Probe) :=
  [.addController "meddler"
      (scripted [.switch (.ofNat 0) true, .switch (.ofNat 1) true, .switchAll true]),
    .assignActuator (.ofNat 1) (.ofNat 5), .runCycle 0 none]

/-- The meddler has the place of the script that went, but not its pump, and it does not move a lamp
that came after both. -/
theorem meddler_inherits_nothing :
    let store : ConfigStore Memory := ⟨Memory.empty, ConfigStore.defaultSpace⟩
    let a : Aquarium AnyRule Relay Probe := (operate (Aquarium.empty, store) departure).1
    ((a.addController "meddler" (scripted [])).answer = some (.ofNat 0) ∧
      (a.addController "meddler" (scripted [])).state.assignedIds (.ofNat 0) = []) ∧
    (operate ((a.addActuator "lamp" Relay.idle).state, store) arrival).1.actuators.get? (.ofNat 1) =
      some ⟨Name.ofString "lamp", .ofNat 1, .unassigned, Relay.idle⟩ := by
  intro store
  obtain ⟨-, hcontroller, hactuator⟩ := assignments_stay_live departure store
  refine ⟨⟨rfl, (hcontroller "meddler" _ (.ofNat 0) rfl).2⟩, ?_⟩
  refine hactuator "lamp" Relay.idle (.ofNat 1) rfl arrival store ?_
  intro front op back hlater
  rcases front with _ | ⟨first, _ | ⟨second, _ | ⟨third, front⟩⟩⟩
  · obtain ⟨rfl, -⟩ := List.cons.inj hlater
    exact id
  · obtain ⟨rfl, hrest⟩ := List.cons.inj hlater
    obtain ⟨rfl, -⟩ := List.cons.inj hrest
    exact fun hclaims => absurd hclaims.2 (by decide)
  · obtain ⟨-, hrest⟩ := List.cons.inj hlater
    obtain ⟨-, hrest⟩ := List.cons.inj hrest
    obtain ⟨rfl, -⟩ := List.cons.inj hrest
    exact id
  · simp [arrival] at hlater

end Aquarium

end AquariumControl
