import AquariumControl.Bench.Relay
import AquariumControl.Device.Dimmer
import AquariumControl.Device.Outlet
import AquariumControl.Rule.Command

/-!
# What a command does to a plant

`Command.perform` carries a program out; this file says what one switching command of it does, so
that nothing after it has to open `Plant.switch` again.

* `Actuator.Faithful` — the one thing that theorems about outputs ask of a driver: its answer says
  what became of the output.  The drivers of this library are faithful.
* `Plant.isOn` and `Plant.Reliable` — the state of an output, and "this controller commands that
  actuator through a faithful driver".
* `Plant.get?_switch` — the effect of one command on every place of the registry.  The lemmas about
  `isOn` and `Reliable` are read off from it.
* `Command.requests` — the switching commands a program gives on the way, with their answers.
-/

set_option autoImplicit false

namespace AquariumControl

/-! ## Drivers that can be believed -/

/-- The answer to a command says what became of the output: after an accepted one it is in the
commanded state, and a refused one changes nothing. -/
def Actuator.Faithful {δ : Type} [Actuator δ] (d : δ) : Prop :=
  ∀ on, Actuator.isOn (Actuator.drive d on).2 =
    if (Actuator.drive d on).1.isOk then on else Actuator.isOn d

theorem Relay.faithful (r : Relay) : Actuator.Faithful r := by
  intro on
  change (r.drive on).2.on = if (r.drive on).1.isOk then on else r.on
  rw [Relay.drive]
  split <;> rfl

theorem Outlet.faithful (o : Outlet) : Actuator.Faithful o := by
  intro on
  change (o.drive on).2.on = if (o.drive on).1.isOk then on else o.on
  rw [Outlet.drive]
  split <;> rfl

theorem Dimmer.faithful (d : Dimmer) : Actuator.Faithful d := by
  intro on
  change (d.drive on).2.on = if (d.drive on).1.isOk then on else d.on
  rw [Dimmer.drive]
  split <;> rfl

namespace ActuatorSlot

variable {δ : Type} [Actuator δ]

@[simp] theorem switch_name (s : ActuatorSlot δ) (on : Bool) :
    (s.switch on).state.name = s.name := by
  rw [switch]
  split
  · rfl
  · split <;> rfl

@[simp] theorem switch_place (s : ActuatorSlot δ) (on : Bool) :
    (s.switch on).state.place = s.place := by
  rw [switch]
  split
  · rfl
  · split <;> rfl

@[simp] theorem switch_controller (s : ActuatorSlot δ) (on : Bool) :
    (s.switch on).state.controller = s.controller := by
  rw [switch]
  split
  · rfl
  · split <;> rfl

/-- An output that is in the wanted state already takes any command. -/
theorem switch_answer_of_eq {s : ActuatorSlot δ} {on : Bool} (h : s.isOn = on) :
    (s.switch on).answer.isOk = true := by
  rw [switch, if_pos h]
  rfl

theorem isOn_switch {s : ActuatorSlot δ} (hs : Actuator.Faithful s.device) (on : Bool) :
    (s.switch on).state.isOn = if (s.switch on).answer.isOk then on else s.isOn := by
  by_cases h : s.isOn = on
  · rw [if_pos (switch_answer_of_eq h), switch, if_pos h]
    exact h
  · have hon := hs on
    rw [switch, if_neg h]
    rcases hd : Actuator.drive s.device on with ⟨_ | _, d⟩ <;> rw [hd] at hon <;> exact hon

end ActuatorSlot

/-! ## One command -/

namespace Plant

variable {δ : Type} [Actuator δ]

/-- Whether an output is on; a place with no actuator is off. -/
def isOn (p : Plant δ) (id : SlotId) : Bool :=
  (p.actuators.get? id).any ActuatorSlot.isOn

/-- A controller commands an actuator that exists, is its own, and has a faithful driver. -/
def Reliable (p : Plant δ) (controller id : SlotId) : Prop :=
  ∃ slot, p.actuators.get? id = some slot ∧ slot.controller = controller ∧
    Actuator.Faithful slot.device

/-- **What one command does to the registry**: the commanded place, if its actuator is the
controller's, holds what switching made of it, and every other place is as it was. -/
theorem get?_switch (p : Plant δ) (controller id : SlotId) (on : Bool) (j : SlotId) :
    (p.switch controller id on).2.actuators.get? j =
      if j = id then
        (p.actuators.get? id).map fun s =>
          if s.controller = controller then (s.switch on).state else s
      else p.actuators.get? j := by
  cases hget : p.actuators.get? id with
  | none =>
    simp only [switch, hget, Option.map_none]
    split
    · next h => rw [h, hget]
    · rfl
  | some slot =>
    by_cases hc : slot.controller = controller
    · have hmod : (p.switch controller id on).2.actuators =
          p.actuators.modify id fun _ => (slot.switch on).state := by
        simp only [switch, hget, if_pos hc]
        split
        · split <;> rfl
        · rfl
      rw [hmod, Registry.get?_modify, hget, Option.map_some, Option.map_some, if_pos hc]
    · simp only [switch, hget, if_neg hc, Option.map_some]
      split
      · next h => rw [h, hget]
      · rfl

/-- **The answer to one command**: yes if there is an actuator, it is the controller's, and it
followed. -/
theorem switch_answer (p : Plant δ) (controller id : SlotId) (on : Bool) :
    (p.switch controller id on).1 =
      (p.actuators.get? id).any fun s =>
        s.controller == controller && (s.switch on).answer.isOk := by
  cases hget : p.actuators.get? id with
  | none => simp only [switch, hget, Option.any_none]
  | some slot =>
    by_cases hc : slot.controller = controller
    · simp only [switch, hget, Option.any_some, hc, beq_self_eq_true, Bool.true_and]
      rcases (slot.switch on).answer with e | b
      · rfl
      · cases b <;> rfl
    · simp only [switch, hget, if_neg hc, Option.any_some, beq_eq_false_iff_ne.mpr hc,
        Bool.false_and]

theorem get?_switch_of_ne (p : Plant δ) (controller : SlotId) {id j : SlotId} (on : Bool)
    (h : j ≠ id) : (p.switch controller id on).2.actuators.get? j = p.actuators.get? j := by
  rw [get?_switch, if_neg h]

theorem isOn_switch_of_ne (p : Plant δ) (controller : SlotId) {id j : SlotId} (on : Bool)
    (h : j ≠ id) : (p.switch controller id on).2.isOn j = p.isOn j := by
  rw [isOn, isOn, get?_switch_of_ne p controller on h]

theorem Reliable.switch_of_ne {p : Plant δ} {controller id j : SlotId} {on : Bool}
    (hj : p.Reliable controller j) (h : j ≠ id) :
    (p.switch controller id on).2.Reliable controller j := by
  obtain ⟨slot, hget, hslot⟩ := hj
  exact ⟨slot, (get?_switch_of_ne p controller on h).trans hget, hslot⟩

theorem Reliable.owns {p : Plant δ} {controller id : SlotId} (h : p.Reliable controller id) :
    p.owns controller id = true := by
  obtain ⟨slot, hget, hc, -⟩ := h
  simp only [Plant.owns, hget, hc, beq_self_eq_true]

omit [Actuator δ] in
/-- What a controller owns is there, and assigned to it. -/
theorem exists_of_owns {p : Plant δ} {controller id : SlotId} (h : p.owns controller id = true) :
    ∃ slot, p.actuators.get? id = some slot ∧ slot.controller = controller := by
  cases hget : p.actuators.get? id with
  | none => simp only [Plant.owns, hget, Bool.false_eq_true] at h
  | some slot =>
    simp only [Plant.owns, hget, beq_iff_eq] at h
    exact ⟨slot, rfl, h⟩

/-- Where all drivers are faithful, to own is to command reliably. -/
theorem reliable_of_owns (hδ : ∀ d : δ, Actuator.Faithful d) {p : Plant δ}
    {controller id : SlotId} (h : p.owns controller id = true) : p.Reliable controller id := by
  obtain ⟨slot, hget, hc⟩ := exists_of_owns h
  exact ⟨slot, hget, hc, hδ slot.device⟩

/-- A reliable output is where its last answer says. -/
theorem Reliable.isOn_switch {p : Plant δ} {controller id : SlotId}
    (h : p.Reliable controller id) (on : Bool) :
    (p.switch controller id on).2.isOn id =
      if (p.switch controller id on).1 then on else p.isOn id := by
  obtain ⟨slot, hget, hc, hf⟩ := h
  rw [switch_answer, isOn, isOn, get?_switch, if_pos rfl, hget]
  simp only [Option.map_some, Option.any_some, hc, if_true, beq_self_eq_true, Bool.true_and]
  exact ActuatorSlot.isOn_switch hf on

/-- A command that a reliable output refuses asks for a change. -/
theorem Reliable.isOn_of_refused {p : Plant δ} {controller id : SlotId} {on : Bool}
    (h : p.Reliable controller id) (hno : (p.switch controller id on).1 = false) :
    p.isOn id = !on := by
  obtain ⟨slot, hget, hc, -⟩ := h
  rw [switch_answer, hget] at hno
  simp only [Option.any_some, hc, beq_self_eq_true, Bool.true_and] at hno
  have hne : slot.isOn ≠ on := fun he => by
    rw [ActuatorSlot.switch_answer_of_eq he] at hno
    cases hno
  rw [isOn, hget, Option.any_some]
  exact Bool.eq_not_of_ne hne

end Plant

/-! ## What a program asks for -/

/-- A switching command with the answer it got. -/
inductive Request
  /-- To one actuator, and whether it was accepted. -/
  | one (actuator : SlotId) (on accepted : Bool)
  /-- To all assigned actuators, and how many accepted it. -/
  | all (on : Bool) (accepted : Nat)
deriving DecidableEq

/-- The level that is asked for. -/
def Request.level : Request → Bool
  | .one _ on _ => on
  | .all on _ => on

namespace Command

variable {α β δ : Type} [Actuator δ]

/-- The switching commands of a program that is carried out on a plant, in the order in which they
are given. -/
def requests (controller : SlotId) : Command α → Plant δ → List Request
  | .done _, _ => []
  | .switchThen id on next, p =>
    let (ok, p') := p.switch controller id on
    .one id on ok :: (next ok).requests controller p'
  | .switchAllThen on next, p =>
    let (count, p') := p.switchAll controller on
    .all on count :: (next count).requests controller p'
  | .ownsThen id next, p => (next (p.owns controller id)).requests controller p
  | .isOnThen id next, p =>
    (next ((p.actuators.get? id).map ActuatorSlot.isOn)).requests controller p
  | .assignedThen next, p => (next (p.actuators.assignedIds controller)).requests controller p
  | .noteThen n next, p =>
    next.requests controller { p with journal := p.journal ++ [.notice n] }

@[simp] theorem perform_pure (controller : SlotId) (a : α) (p : Plant δ) :
    (pure a : Command α).perform controller p = (a, p) := rfl

@[simp] theorem perform_switch (controller id : SlotId) (on : Bool) (p : Plant δ) :
    (Command.switch id on).perform controller p = p.switch controller id on := rfl

@[simp] theorem perform_switchAll (controller : SlotId) (on : Bool) (p : Plant δ) :
    (Command.switchAll on).perform controller p = p.switchAll controller on := rfl

@[simp] theorem perform_owns (controller id : SlotId) (p : Plant δ) :
    (Command.owns id).perform controller p = (p.owns controller id, p) := rfl

@[simp] theorem requests_pure (controller : SlotId) (a : α) (p : Plant δ) :
    (pure a : Command α).requests controller p = [] := rfl

@[simp] theorem requests_switch (controller id : SlotId) (on : Bool) (p : Plant δ) :
    (Command.switch id on).requests controller p = [.one id on (p.switch controller id on).1] :=
  rfl

@[simp] theorem requests_switchAll (controller : SlotId) (on : Bool) (p : Plant δ) :
    (Command.switchAll on).requests controller p = [.all on (p.switchAll controller on).1] := rfl

@[simp] theorem requests_owns (controller id : SlotId) (p : Plant δ) :
    (Command.owns id).requests controller p = [] := rfl

@[simp] theorem requests_note (controller : SlotId) (n : Notice) (p : Plant δ) :
    (Command.note n).requests controller p = [] := rfl

/-- Two programs in a row: the second starts where the first one ended. -/
@[simp] theorem perform_bind (controller : SlotId) (c : Command α) (f : α → Command β)
    (p : Plant δ) : (c >>= f).perform controller p =
      (f (c.perform controller p).1).perform controller (c.perform controller p).2 := by
  change (Command.bind c f).perform controller p = _
  induction c generalizing p with
  | done a => rfl
  | switchThen id on next ih => exact ih _ _
  | switchAllThen on next ih => exact ih _ _
  | ownsThen id next ih => exact ih _ _
  | isOnThen id next ih => exact ih _ _
  | assignedThen next ih => exact ih _ _
  | noteThen n next ih => exact ih _

@[simp] theorem requests_bind (controller : SlotId) (c : Command α) (f : α → Command β)
    (p : Plant δ) : (c >>= f).requests controller p = c.requests controller p ++
      (f (c.perform controller p).1).requests controller (c.perform controller p).2 := by
  change (Command.bind c f).requests controller p = _
  induction c generalizing p with
  | done a => rfl
  | switchThen id on next ih => exact congrArg (List.cons _) (ih _ _)
  | switchAllThen on next ih => exact congrArg (List.cons _) (ih _ _)
  | ownsThen id next ih => exact ih _ _
  | isOnThen id next ih => exact ih _ _
  | assignedThen next ih => exact ih _ _
  | noteThen n next ih => exact ih _

@[simp] theorem perform_map (controller : SlotId) (f : α → β) (c : Command α) (p : Plant δ) :
    (f <$> c).perform controller p =
      (f (c.perform controller p).1, (c.perform controller p).2) := by
  rw [← bind_pure_comp, perform_bind]
  rfl

@[simp] theorem requests_map (controller : SlotId) (f : α → β) (c : Command α) (p : Plant δ) :
    (f <$> c).requests controller p = c.requests controller p := by
  rw [← bind_pure_comp, requests_bind, requests_pure, List.append_nil]

end Command

end AquariumControl
