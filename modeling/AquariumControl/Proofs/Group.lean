import AquariumControl.Proofs.Plant
import AquariumControl.Proofs.Registry

/-!
# Commands to a whole group

The actuators that are assigned to a controller are its group, and `Plant.switchAll` commands them
one after the other.  No command to one of them touches another, so what the group command does to
an actuator can be read off the plant as it was before (`Plant.get?_switchAll`).

* `Actuator.Working` — a driver that is faithful and refuses nothing; `Actuator.Dependable` — one
  that stays so whatever it is told, and `Plant.Dependable` — an actuator of a controller with such
  a driver.
* `Plant.refuses` — whether an actuator, as it is, would refuse a command.
* `Plant.isOn_switchAll` — after a group command an output is where it was told to go, or where it
  was if it refused.
* `Plant.SameGroup` — two plants in which a controller finds the same group in the same state.
-/

set_option autoImplicit false

namespace AquariumControl

/-- A driver that refuses no command and does as it answers. -/
structure Actuator.Working {δ : Type} [Actuator δ] (d : δ) : Prop where
  faithful : Actuator.Faithful d
  accepts : ∀ on, (Actuator.drive d on).1.isOk = true

theorem Relay.working {r : Relay} (h : r.failure = .none) : Actuator.Working r := by
  refine ⟨r.faithful, fun on => ?_⟩
  change (r.drive on).1.isOk = true
  rw [Relay.drive, h]
  rfl

/-- A driver that works, and still works after any commands. -/
def Actuator.Dependable {δ : Type} [Actuator δ] (d : δ) : Prop :=
  ∀ commands : List Bool,
    Actuator.Working (commands.foldl (fun d on => (Actuator.drive d on).2) d)

theorem Relay.dependable {r : Relay} (h : r.failure = .none) : Actuator.Dependable r := by
  intro commands
  induction commands generalizing r with
  | nil => exact Relay.working h
  | cons on rest ih =>
    refine ih (r := (r.drive on).2) ?_
    rw [Relay.drive]
    split <;> exact h

namespace ActuatorSlot

variable {δ : Type} [Actuator δ]

theorem switch_answer_of_working {s : ActuatorSlot δ} (h : Actuator.Working s.device) (on : Bool) :
    (s.switch on).answer.isOk = true := by
  have haccept := h.accepts on
  rw [switch]
  split
  · rfl
  · rcases hd : Actuator.drive s.device on with ⟨_ | _, d⟩ <;> rw [hd] at haccept
    · cases haccept
    · rfl

/-- What no command takes from a driver, switching does not take from an actuator. -/
theorem device_switch {P : δ → Prop} (hdrive : ∀ d on, P d → P (Actuator.drive d on).2)
    {s : ActuatorSlot δ} (h : P s.device) (on : Bool) : P (s.switch on).state.device := by
  have hdriven := hdrive s.device on h
  rw [switch]
  split
  · exact h
  · rcases hd : Actuator.drive s.device on with ⟨_ | _, d⟩ <;> rw [hd] at hdriven <;> exact hdriven

theorem dependable_switch {s : ActuatorSlot δ} (h : Actuator.Dependable s.device) (on : Bool) :
    Actuator.Dependable (s.switch on).state.device :=
  device_switch (P := Actuator.Dependable) (fun _ on hd commands => hd (on :: commands)) h on

end ActuatorSlot

/-! ## Who belongs to the group -/

namespace Actuators

variable {δ : Type}

theorem mem_assigned {actuators : Actuators δ} {controller id : SlotId} {slot : ActuatorSlot δ} :
    (id, slot) ∈ actuators.assigned controller ↔
      actuators.get? id = some slot ∧ controller.isAssigned = true ∧
        slot.controller = controller := by
  rw [assigned, List.mem_filter, Registry.mem_entries, Bool.and_eq_true_iff, beq_iff_eq]

theorem mem_assignedIds {actuators : Actuators δ} {controller id : SlotId} :
    id ∈ actuators.assignedIds controller ↔ ∃ slot, actuators.get? id = some slot ∧
      controller.isAssigned = true ∧ slot.controller = controller := by
  rw [assignedIds, List.mem_map]
  constructor
  · rintro ⟨⟨_, slot⟩, hmem, rfl⟩
    exact ⟨slot, mem_assigned.mp hmem⟩
  · rintro ⟨slot, h⟩
    exact ⟨(id, slot), mem_assigned.mpr h, rfl⟩

theorem nodup_assignedIds (actuators : Actuators δ) (controller : SlotId) :
    (actuators.assignedIds controller).Nodup :=
  (actuators.nodup_entries).sublist (List.filter_sublist.map Prod.fst)

end Actuators

namespace Plant

variable {δ : Type} [Actuator δ]

/-! ## One command after the other -/

/-- One command of a group command, with the count of those accepted so far. -/
def switchStep (controller : SlotId) (on : Bool) (done : Nat × Plant δ) (id : SlotId) :
    Nat × Plant δ :=
  let (ok, p') := done.2.switch controller id on
  (if ok then done.1 + 1 else done.1, p')

/-- Commanding different places in a row treats each of them as if it were the only one. -/
theorem get?_foldl_switchStep (controller : SlotId) (on : Bool) :
    ∀ (ids : List SlotId) (done : Nat × Plant δ), ids.Nodup → ∀ j,
      (ids.foldl (switchStep controller on) done).2.actuators.get? j =
        if j ∈ ids then
          (done.2.actuators.get? j).map fun s =>
            if s.controller = controller then (s.switch on).state else s
        else done.2.actuators.get? j
  | [], _, _, _ => rfl
  | id :: rest, done, hnodup, j => by
    obtain ⟨hid, hrest⟩ := List.nodup_cons.mp hnodup
    rw [List.foldl_cons, get?_foldl_switchStep controller on rest _ hrest j]
    change (if j ∈ rest then
        ((done.2.switch controller id on).2.actuators.get? j).map _
      else (done.2.switch controller id on).2.actuators.get? j) = _
    by_cases hj : j = id
    · subst hj
      rw [if_neg hid, if_pos List.mem_cons_self, get?_switch, if_pos rfl]
    · rw [get?_switch_of_ne _ _ _ hj]
      simp only [List.mem_cons, hj, false_or]

/-- **What a group command does to the registry**: every place of the group holds what switching
made of its actuator, and every other place is as it was. -/
theorem get?_switchAll (p : Plant δ) (controller : SlotId) (on : Bool) (j : SlotId) :
    (p.switchAll controller on).2.actuators.get? j =
      if j ∈ p.actuators.assignedIds controller then
        (p.actuators.get? j).map fun s => (s.switch on).state
      else p.actuators.get? j := by
  have key := get?_foldl_switchStep controller on (p.actuators.assignedIds controller) (0, p)
    (p.actuators.nodup_assignedIds controller) j
  change (p.switchAll controller on).2.actuators.get? j = _ at key
  rw [key]
  by_cases hj : j ∈ p.actuators.assignedIds controller
  · obtain ⟨slot, hget, -, hc⟩ := Actuators.mem_assignedIds.mp hj
    simp only [if_pos hj, hget, Option.map_some, if_pos hc]
  · rw [if_neg hj, if_neg hj]

/-! ## What becomes of the outputs -/

/-- Whether an actuator, as it is, would refuse a command; one that is in the wanted state already
refuses nothing. -/
def refuses (p : Plant δ) (id : SlotId) (on : Bool) : Bool :=
  (p.actuators.get? id).any fun s => !(s.switch on).answer.isOk

/-- What holds of all drivers of a controller's group. -/
def Group (p : Plant δ) (controller : SlotId) (P : δ → Prop) : Prop :=
  ∀ e ∈ p.actuators.assigned controller, P e.2.device

omit [Actuator δ] in
theorem Group.device {p : Plant δ} {controller id : SlotId} {P : δ → Prop}
    (h : p.Group controller P) (hid : id ∈ p.actuators.assignedIds controller) :
    ∃ slot, p.actuators.get? id = some slot ∧ P slot.device := by
  obtain ⟨slot, hslot⟩ := Actuators.mem_assignedIds.mp hid
  exact ⟨slot, hslot.1, h (id, slot) (Actuators.mem_assigned.mpr hslot)⟩

omit [Actuator δ] in
theorem Group.mono {p : Plant δ} {controller : SlotId} {P Q : δ → Prop}
    (h : p.Group controller P) (hPQ : ∀ d, P d → Q d) : p.Group controller Q :=
  fun e he => hPQ _ (h e he)

/-- **What a group command does to an output**: it goes where it is told, unless it refuses. -/
theorem isOn_switchAll {p : Plant δ} {controller id : SlotId}
    (hf : p.Group controller Actuator.Faithful)
    (hid : id ∈ p.actuators.assignedIds controller) (on : Bool) :
    (p.switchAll controller on).2.isOn id = if p.refuses id on then p.isOn id else on := by
  obtain ⟨slot, hget, hslot⟩ := hf.device hid
  rw [isOn, isOn, refuses, get?_switchAll, if_pos hid, hget]
  simp only [Option.map_some, Option.any_some, ActuatorSlot.isOn_switch hslot]
  cases (slot.switch on).answer.isOk <;> rfl

/-- An actuator that refuses a command is not in the wanted state. -/
theorem isOn_of_refuses {p : Plant δ} {id : SlotId} {on : Bool} (h : p.refuses id on = true) :
    p.isOn id = !on := by
  rw [refuses] at h
  rw [isOn]
  cases hget : p.actuators.get? id with
  | none =>
    rw [hget] at h
    cases h
  | some slot =>
    rw [hget, Option.any_some, Bool.not_eq_true'] at h
    rw [Option.any_some]
    refine Bool.eq_not_of_ne fun he => ?_
    rw [ActuatorSlot.switch_answer_of_eq he] at h
    cases h

/-- After an *off* to the group, what is still on is what refused. -/
theorem isOn_switchAll_off {p : Plant δ} {controller id : SlotId}
    (hf : p.Group controller Actuator.Faithful)
    (hid : id ∈ p.actuators.assignedIds controller) :
    (p.switchAll controller false).2.isOn id = p.refuses id false := by
  rw [isOn_switchAll hf hid]
  cases h : p.refuses id false with
  | true => exact isOn_of_refuses h
  | false => rfl

/-- A group whose drivers work goes where it is told. -/
theorem isOn_switchAll_of_working {p : Plant δ} {controller id : SlotId}
    (hw : p.Group controller Actuator.Working)
    (hid : id ∈ p.actuators.assignedIds controller) (on : Bool) :
    (p.switchAll controller on).2.isOn id = on := by
  obtain ⟨slot, hget, hslot⟩ := hw.device hid
  have hno : p.refuses id on = false := by
    rw [refuses, hget, Option.any_some, Bool.not_eq_false']
    exact ActuatorSlot.switch_answer_of_working hslot on
  rw [isOn_switchAll (hw.mono fun _ h => h.faithful) hid, hno]
  rfl

/-- A group command changes nobody's assignment. -/
theorem mem_assignedIds_switchAll (p : Plant δ) (controller : SlotId) (on : Bool) (id : SlotId) :
    id ∈ (p.switchAll controller on).2.actuators.assignedIds controller ↔
      id ∈ p.actuators.assignedIds controller := by
  rw [Actuators.mem_assignedIds, get?_switchAll]
  split
  · next h =>
    obtain ⟨slot, hget, ha, hc⟩ := Actuators.mem_assignedIds.mp h
    exact iff_of_true ⟨_, by rw [hget, Option.map_some], ha,
      (slot.switch_controller on).trans hc⟩ h
  · exact Actuators.mem_assignedIds.symm

/-! ## Actuators that can be depended on -/

/-- A controller commands an actuator that exists, is its own, and always works. -/
def Dependable (p : Plant δ) (controller id : SlotId) : Prop :=
  ∃ slot, p.actuators.get? id = some slot ∧ slot.controller = controller ∧
    Actuator.Dependable slot.device

theorem Dependable.reliable {p : Plant δ} {controller id : SlotId}
    (h : p.Dependable controller id) : p.Reliable controller id := by
  obtain ⟨slot, hget, hc, hd⟩ := h
  exact ⟨slot, hget, hc, (hd []).faithful⟩

theorem Dependable.switch_answer {p : Plant δ} {controller id : SlotId}
    (h : p.Dependable controller id) (on : Bool) : (p.switch controller id on).1 = true := by
  obtain ⟨slot, hget, hc, hd⟩ := h
  rw [Plant.switch_answer, hget, Option.any_some, hc, beq_self_eq_true, Bool.true_and]
  exact ActuatorSlot.switch_answer_of_working (hd []) on

/-- After a command an actuator is as dependable as before. -/
theorem Dependable.switch {p : Plant δ} {controller id : SlotId} (h : p.Dependable controller id)
    (other j : SlotId) (on : Bool) : (p.switch other j on).2.Dependable controller id := by
  obtain ⟨slot, hget, hc, hd⟩ := h
  rw [Dependable, get?_switch]
  split
  · next hj =>
    rw [← hj, hget, Option.map_some]
    refine ⟨_, rfl, ?_⟩
    split
    · exact ⟨(slot.switch_controller on).trans hc, ActuatorSlot.dependable_switch hd on⟩
    · exact ⟨hc, hd⟩
  · exact ⟨slot, hget, hc, hd⟩

/-! ## The same group -/

/-- A controller finds the same group in both plants, and every output of it in the same state. -/
def SameGroup (controller : SlotId) (p q : Plant δ) : Prop :=
  q.actuators.assignedIds controller = p.actuators.assignedIds controller ∧
    ∀ id ∈ p.actuators.assignedIds controller, q.isOn id = p.isOn id

instance (controller : SlotId) (p q : Plant δ) : Decidable (SameGroup controller p q) :=
  inferInstanceAs (Decidable (_ ∧ _))

theorem SameGroup.refl (controller : SlotId) (p : Plant δ) : SameGroup controller p p :=
  ⟨rfl, fun _ _ => rfl⟩

theorem SameGroup.trans {controller : SlotId} {p q r : Plant δ} (hpq : SameGroup controller p q)
    (hqr : SameGroup controller q r) : SameGroup controller p r :=
  ⟨hqr.1.trans hpq.1, fun id hid => (hqr.2 id (hpq.1 ▸ hid)).trans (hpq.2 id hid)⟩

end Plant

end AquariumControl
