import AquariumControl.Aquarium.Cycle
import AquariumControl.Bench.Rig
import AquariumControl.Proofs.Plant
import AquariumControl.Proofs.Registry

/-!
# A controller moves its own outputs only

Whatever program a rule answers with, carrying it out leaves the actuators of others alone and
takes nothing out of the registry or into it.  The argument has one step and two lifts.

* `Plant.MovedBy` — what may have happened to a plant on behalf of one controller.
* `Plant.movedBy_switch` — one command stays within it.
* `Command.perform_induction` — what one command preserves, a program preserves; so programs stay
  within it too (`Command.movedBy_perform`).
* `Aquarium.runCycle_induction` — what every program of every registered controller preserves, the
  cycle preserves.  An actuator that no registered controller commands is moved by none of them.
-/

set_option autoImplicit false

namespace AquariumControl

/-- What an actuator is called and who commands it: all of it but the device. -/
def ActuatorSlot.identity {δ : Type} (s : ActuatorSlot δ) : Name × Label × SlotId :=
  (s.name, s.label, s.controller)

namespace Plant

variable {δ : Type}

/-- What may have happened to a plant on behalf of a controller. -/
structure MovedBy (controller : SlotId) (p p' : Plant δ) : Prop where
  /-- An actuator of someone else is as it was. -/
  others : ∀ id slot, p.actuators.get? id = some slot → slot.controller ≠ controller →
    p'.actuators.get? id = some slot
  /-- The same places are occupied, under the same names and by the same controllers'
  actuators. -/
  identity : ∀ id, (p'.actuators.get? id).map ActuatorSlot.identity =
    (p.actuators.get? id).map ActuatorSlot.identity

theorem MovedBy.refl (controller : SlotId) (p : Plant δ) : p.MovedBy controller p :=
  ⟨fun _ _ h _ => h, fun _ => rfl⟩

theorem MovedBy.trans {controller : SlotId} {p q r : Plant δ} (hpq : p.MovedBy controller q)
    (hqr : q.MovedBy controller r) : p.MovedBy controller r :=
  ⟨fun id slot h hne => hqr.others id slot (hpq.others id slot h hne) hne,
    fun id => (hqr.identity id).trans (hpq.identity id)⟩

theorem movedBy_switch [Actuator δ] (p : Plant δ) (controller id : SlotId) (on : Bool) :
    p.MovedBy controller (p.switch controller id on).2 := by
  refine ⟨fun j slot hj hne => ?_, fun j => ?_⟩
  · rw [get?_switch]
    split
    · next h => rw [← h, hj, Option.map_some, if_neg hne]
    · exact hj
  · rw [get?_switch]
    split
    · next h =>
      rw [← h, Option.map_map]
      refine congrArg (Option.map · _) (funext fun s => ?_)
      simp only [Function.comp_apply, ActuatorSlot.identity, ActuatorSlot.label]
      split <;> simp
    · rfl

end Plant

/-! ## Whole programs -/

namespace Command

variable {α δ : Type} [Actuator δ]

/-- **What one command and a line in the log preserve, a program preserves.** -/
theorem perform_induction {P : Plant δ → Prop} (controller : SlotId)
    (hswitch : ∀ q id on, P q → P (q.switch controller id on).2)
    (hnote : ∀ (q : Plant δ) n, P q → P { q with journal := q.journal ++ [.notice n] }) :
    ∀ (program : Command α) (p : Plant δ), P p → P (program.perform controller p).2 := by
  intro program
  induction program with
  | done a => exact fun p hp => hp
  | switchThen id on next ih => exact fun p hp => ih _ _ (hswitch p id on hp)
  | switchAllThen on next ih =>
    refine fun p hp => ih _ _ ?_
    -- a group command is one command after the other, with a count carried along
    exact List.foldlRecOn (motive := fun acc : Nat × Plant δ => P acc.2)
      (p.actuators.assignedIds controller) _ hp fun acc hacc id _ => hswitch acc.2 id on hacc
  | ownsThen id next ih => exact fun p hp => ih _ p hp
  | isOnThen id next ih => exact fun p hp => ih _ p hp
  | assignedThen next ih => exact fun p hp => ih _ p hp
  | noteThen n next ih => exact fun p hp => ih _ (hnote p _ hp)

theorem movedBy_perform (controller : SlotId) (program : Command α) (p : Plant δ) :
    p.MovedBy controller (program.perform controller p).2 :=
  perform_induction controller (fun q id on hq => hq.trans (q.movedBy_switch controller id on))
    (fun _ _ hq => ⟨hq.others, hq.identity⟩) program p (.refl controller p)

end Command

/-! ## Whole cycles -/

namespace Aquarium

variable {ρ δ σ : Type} [Rule ρ] [Actuator δ] [Sensor σ]

/-- **What the program of every registered controller preserves, a cycle preserves.** -/
theorem runCycle_induction {P : Actuators δ → Prop} (a : Aquarium ρ δ σ) (uptime : UInt64)
    (time : Option TimeOfDay)
    (hstep : ∀ controller, a.controllers.contains controller →
      ∀ (program : Command (RunStatus × ρ)) (p : Plant δ), P p.actuators →
        P (program.perform controller p).2.actuators)
    (ha : P a.actuators) : P (a.runCycle uptime time).state.actuators := by
  refine Registry.mapAccum_induction (P := fun acc : Plant δ × RunCounts => P acc.1.actuators)
    a.controllers (fun id slot hid acc hacc => ?_) ha
  exact hstep id (by rw [Registry.contains, hid]; rfl) _ acc.1 hacc

theorem identity_runCycle (a : Aquarium ρ δ σ) (uptime : UInt64) (time : Option TimeOfDay)
    (id : SlotId) :
    ((a.runCycle uptime time).state.actuators.get? id).map ActuatorSlot.identity =
      (a.actuators.get? id).map ActuatorSlot.identity :=
  a.runCycle_induction (P := fun actuators => (Registry.get? actuators id).map
      ActuatorSlot.identity = (a.actuators.get? id).map ActuatorSlot.identity) uptime time
    (fun controller _ program p hp =>
      ((program.movedBy_perform controller p).identity id).trans hp) rfl

/-- An actuator that no registered controller commands comes out of a cycle as it went in. -/
theorem get?_runCycle_of_controllerOf (a : Aquarium ρ δ σ) (uptime : UInt64)
    (time : Option TimeOfDay) {id : SlotId} (h : a.controllerOf id = none) :
    (a.runCycle uptime time).state.actuators.get? id = a.actuators.get? id := by
  cases hget : a.actuators.get? id with
  | none =>
    have hid := a.identity_runCycle uptime time id
    rw [hget] at hid
    exact Option.map_eq_none_iff.mp hid
  | some slot =>
    refine a.runCycle_induction (P := fun actuators => Registry.get? actuators id = some slot)
      uptime time (fun controller hc program p hp => ?_) hget
    refine (program.movedBy_perform controller p).others id slot hp fun he => ?_
    rw [controllerOf, hget] at h
    simp only [he, hc, if_true] at h
    cases h

/-- **A controller moves its own outputs only.**  Carried out on behalf of a controller, a program,
however its later commands depend on earlier answers, leaves every actuator of someone else as it
was, and every place occupied or free, named and assigned as before.  A cycle of any rules ends
with the readings that the sensors left before the first of them was run, and with every actuator
that no registered controller commands as it was. -/
theorem moves_own_outputs_only :
    (∀ (α : Type) (controller : SlotId) (program : Command α) (p : Plant δ),
      p.MovedBy controller (program.perform controller p).2) ∧
    ∀ (a : Aquarium ρ δ σ) (uptime : UInt64) (time : Option TimeOfDay),
      (a.runCycle uptime time).state.readings = (a.sensors.survey a.readings).2.readings ∧
      ∀ id,
        ((a.runCycle uptime time).state.actuators.get? id).map ActuatorSlot.identity =
          (a.actuators.get? id).map ActuatorSlot.identity ∧
        (a.controllerOf id = none →
          (a.runCycle uptime time).state.actuators.get? id = a.actuators.get? id) := by
  refine ⟨fun α controller program p => program.movedBy_perform controller p,
    fun a uptime time => ⟨rfl, fun id => ⟨a.identity_runCycle uptime time id, fun h => ?_⟩⟩⟩
  exact a.get?_runCycle_of_controllerOf uptime time h

/-- A script in place 0 that goes for three relays: its own, one of nobody, and one whose
controller is gone. -/
def meddled : Aquarium AnyRule Relay Probe :=
  let meddler : AnyRule := .script { Script.default with
    actions := [.switch (.ofNat 0) true, .switch (.ofNat 1) true, .switch (.ofNat 2) true] }
  let bare : Aquarium AnyRule Relay Probe :=
    (empty.placeController (.fresh "meddler" meddler)).state
  { bare with actuators := (Rig.create (.ofNat 0) meddler
      [(.ofNat 0, false), (.unassigned, false), (.ofNat 5, false)]).actuators }

/-- Only the script's own relay goes on. -/
theorem meddled_relays_stay :
    (meddled.runCycle 0 none).answer.switches = [⟨.ofNat 0, .ofNat 0, true⟩] ∧
    (meddled.controllerOf (.ofNat 1) = none ∧
      (meddled.runCycle 0 none).state.actuators.get? (.ofNat 1) =
        meddled.actuators.get? (.ofNat 1)) ∧
    (meddled.controllerOf (.ofNat 2) = none ∧
      (meddled.runCycle 0 none).state.actuators.get? (.ofNat 2) =
        meddled.actuators.get? (.ofNat 2)) :=
  ⟨by decide,
    ⟨by decide, ((moves_own_outputs_only.2 meddled 0 none).2 _).2 (by decide)⟩,
    ⟨by decide, ((moves_own_outputs_only.2 meddled 0 none).2 _).2 (by decide)⟩⟩

end Aquarium

end AquariumControl
