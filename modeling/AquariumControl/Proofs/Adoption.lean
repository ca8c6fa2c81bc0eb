import AquariumControl.Proofs.Assignment
import AquariumControl.Proofs.Restore
import AquariumControl.Proofs.Saving

/-!
# Assignments that come out of a store

The record of an actuator names the controller that the actuator was assigned to, and an actuator
that takes the record over takes the assignment over with it.  Assigning an actuator asks whether
the controller is registered, and removing a controller takes its actuators away; restoring does
neither.  An actuator may therefore be assigned to a place that is free, and the next controller
in that place has it from the start.

* `Aquarium.Reassigns` — restoring assigns an actuator to a controller.
* `Aquarium.controller_restoreAll` — after restoring, an actuator is assigned to what its record
  says, or to what it was assigned to before.
* `Aquarium.restored_assignments_live_iff` — when assignments are live after restoring, and which
  actuators a new controller finds.
-/

set_option autoImplicit false

namespace AquariumControl

/-! ## One actuator -/

namespace ActuatorSlot

variable {δ τ : Type} [Actuator δ] [Storage τ]

theorem controller_take {s s' : ActuatorSlot δ} {r : Record} (h : s.take r = .ok s') :
    s'.controller = r.controller := by
  rw [take] at h
  obtain ⟨loaded, -, rfl⟩ := Except.map_eq_ok h
  rfl

/-- An actuator is assigned to what its record says, if that is applied, and otherwise stays with
its controller. -/
theorem controller_restore (s : ActuatorSlot δ) (store : ConfigStore τ) (id : SlotId) :
    ((s.restore store id).answer = .ok .applied ∧
      ∃ r, (store.readRecord (Label.text ⟨.actuator, id⟩)).1 = .ok (some r) ∧
        (s.restore store id).state.controller = r.controller) ∨
    (s.restore store id).answer ≠ .ok .applied ∧
      (s.restore store id).state.controller = s.controller := by
  have hended : Restoration s.kind.tag s.take (fun slot => slot)
      (store.readRecord (Label.text ⟨.actuator, id⟩)).1 s (s.restore store id).state
      (s.restore store id).answer :=
    store.restoration _ _ (fun r => by cases s.take r <;> rfl) s
  generalize (s.restore store id).answer = ending at *
  generalize (s.restore store id).state = s' at *
  generalize (store.readRecord (Label.text ⟨.actuator, id⟩)).1 = found at *
  cases hended with
  | missing _ => exact .inr ⟨by simp, rfl⟩
  | unreadable _ _ => exact .inr ⟨by simp, rfl⟩
  | mismatched _ _ => exact .inr ⟨by simp, rfl⟩
  | rejected _ _ _ => exact .inr ⟨by simp, rfl⟩
  | applied _ _ htaken => exact .inl ⟨rfl, _, rfl, controller_take htaken⟩

end ActuatorSlot

namespace Aquarium

variable {ρ δ σ τ : Type} [Rule ρ] [Actuator δ] [Sensor σ] [Storage τ]

/-! ## All actuators -/

/-- Restoring applies a record to the actuator in a place, and the record names this controller. -/
def Reassigns (a : Aquarium ρ δ σ) (store : ConfigStore τ) (actuator controller : SlotId) : Prop :=
  a.ending store ⟨.actuator, actuator⟩ = .ok .applied ∧
    ∃ r, (store.readRecord (Label.text ⟨.actuator, actuator⟩)).1 = .ok (some r) ∧
      r.controller = controller

/-- Restoring assigns an actuator as its record says, or leaves the assignment alone. -/
theorem controller_restoreAll {a : Aquarium ρ δ σ} {store : ConfigStore τ} {id : SlotId}
    {s' : ActuatorSlot δ} (hid : (a.restoreAll store).state.actuators.get? id = some s') :
    a.Reassigns store id s'.controller ∨
      ∃ s, a.actuators.get? id = some s ∧ s.controller = s'.controller := by
  rw [get?_restoreAll] at hid
  obtain ⟨s, hs, rfl⟩ := Option.map_eq_some_iff.mp hid
  rcases s.controller_restore store id with ⟨happlied, r, hfound, hr⟩ | ⟨-, hsame⟩
  · exact .inl ⟨(a.ending_actuator store id s hs).trans happlied, r, hfound, hr.symm⟩
  · exact .inr ⟨s, hs, hsame.symm⟩

theorem Reassigns.controller_restoreAll {a : Aquarium ρ δ σ} {store : ConfigStore τ}
    {id controller : SlotId} (h : a.Reassigns store id controller) :
    ∃ s', (a.restoreAll store).state.actuators.get? id = some s' ∧ s'.controller = controller := by
  obtain ⟨happlied, r, hfound, rfl⟩ := h
  rw [get?_restoreAll]
  cases hs : a.actuators.get? id with
  | none =>
    simp only [ending, hs, Option.elim_none] at happlied
    cases happlied
  | some s =>
    rw [a.ending_actuator store id s hs] at happlied
    refine ⟨(s.restore store id).state, rfl, ?_⟩
    rcases s.controller_restore store id with ⟨-, r', hfound', hr'⟩ | ⟨hother, -⟩
    · rw [hfound] at hfound'
      rw [hr', Option.some.inj (Except.ok.inj hfound')]
    · exact absurd happlied hother

/-- Out of what an aquarium saved, an actuator is assigned to the number of the controller that its
counterpart there was assigned to. -/
theorem reassigns_saved_iff {a b : Aquarium ρ δ σ} {blank : ConfigStore τ}
    (hexact : Storage.Exact blank.storage) (hsaved : (a.saveAll blank).answer.failed = 0)
    {id : SlotId} {s : ActuatorSlot δ} (hid : a.actuators.get? id = some s) (controller : SlotId) :
    b.Reassigns (a.saveAll blank).state id controller ↔
      b.ending (a.saveAll blank).state ⟨.actuator, id⟩ = .ok .applied ∧
        s.controller = controller := by
  obtain ⟨r, hr, hfound⟩ := a.found_of_mem_records hexact hsaved (a.mem_records_actuator hid)
  have hcontroller : r.controller = s.controller := by
    obtain ⟨payload, -, rfl⟩ := Except.map_eq_ok hr
    rfl
  rw [Reassigns, hfound]
  refine and_congr_right fun _ => ⟨?_, ?_⟩
  · rintro ⟨r', hr', rfl⟩
    rw [← hcontroller, Option.some.inj (Except.ok.inj hr')]
  · rintro rfl
    exact ⟨r, rfl, hcontroller⟩

/-- Assignments are live after restoring exactly if those out of the store are. -/
theorem live_restoreAll_iff {b : Aquarium ρ δ σ} (hlive : b.LiveAssignments)
    (store : ConfigStore τ) :
    (b.restoreAll store).state.LiveAssignments ↔
      ∀ id controller, b.Reassigns store id controller →
        controller = .unassigned ∨ b.controllers.contains controller = true := by
  constructor
  · intro hrestored id controller hgiven
    obtain ⟨s', hs', rfl⟩ := hgiven.controller_restoreAll
    rw [← b.contains_restoreAll store]
    exact hrestored id s' hs'
  · intro hrecords id s' hs'
    rw [contains_restoreAll]
    rcases controller_restoreAll hs' with hgiven | ⟨s, hs, hsame⟩
    · exact hrecords id _ hgiven
    · rw [← hsame]
      exact hlive id s hs

/-- A controller that is added after restoring has the actuators whose record names its place. -/
theorem mem_assignedIds_restoreAll {b : Aquarium ρ δ σ} (hlive : b.LiveAssignments)
    (store : ConfigStore τ) {name : String} {rule : ρ} {controller : SlotId}
    (hadd : ((b.restoreAll store).state.addController name rule).answer = some controller)
    (id : SlotId) :
    id ∈ ((b.restoreAll store).state.addController name rule).state.assignedIds controller ↔
      b.Reassigns store id controller := by
  obtain ⟨hfree, hnew, hmem⟩ := mem_assignedIds_addController hadd
  rw [hmem]
  constructor
  · rintro ⟨s', hs', rfl⟩
    refine (controller_restoreAll hs').resolve_right ?_
    -- an assignment from before names no free place
    rintro ⟨s, hs, hsame⟩
    rw [← hsame] at hfree hnew
    rw [contains_restoreAll] at hfree
    rcases hlive id s hs with hnone | hregistered
    · rw [hnone] at hnew
      cases hnew
    · rw [hregistered] at hfree
      cases hfree
  · exact fun hgiven => hgiven.controller_restoreAll

/-- **Restoring keeps assignments live only if the controllers in the records are registered.**  If
assignments are live before, then after restoring they are exactly if every record that is applied
names a registered controller or none.  A controller that is added then has exactly the actuators
whose record names its place.  These are the actuators that were assigned to that place in the
aquarium that saved, whatever was in the place there. -/
theorem restored_assignments_live_iff {b : Aquarium ρ δ σ} (hlive : b.LiveAssignments)
    (store : ConfigStore τ) :
    ((b.restoreAll store).state.LiveAssignments ↔
      ∀ id controller, b.Reassigns store id controller →
        controller = .unassigned ∨ b.controllers.contains controller = true) ∧
    (∀ name rule controller,
      ((b.restoreAll store).state.addController name rule).answer = some controller →
        ∀ id, id ∈ ((b.restoreAll store).state.addController name rule).state.assignedIds
            controller ↔ b.Reassigns store id controller) ∧
    ∀ (a : Aquarium ρ δ σ) (blank : ConfigStore τ), Storage.Exact blank.storage →
      (a.saveAll blank).answer.failed = 0 → store = (a.saveAll blank).state →
        ∀ id s, a.actuators.get? id = some s → ∀ controller,
          b.Reassigns store id controller ↔
            b.ending store ⟨.actuator, id⟩ = .ok .applied ∧ s.controller = controller := by
  refine ⟨live_restoreAll_iff hlive store, ?_, ?_⟩
  · intro name rule controller hadd id
    exact mem_assignedIds_restoreAll hlive store hadd id
  · rintro a blank hexact hsaved rfl id s hid controller
    exact reassigns_saved_iff hexact hsaved hid controller

/-- A store with nothing in it. -/
def blankStore : ConfigStore Memory := ⟨Memory.empty, ConfigStore.defaultSpace⟩

/-- A script and its pump. -/
def owned : Aquarium AnyRule Relay Probe :=
  (operate (Aquarium.empty, blankStore) takeover).1

/-- What is left of them without the script. -/
def ownerless : Aquarium AnyRule Relay Probe :=
  (owned.removeController (.ofNat 0)).state

theorem ownerless_live : ownerless.LiveAssignments :=
  .removeController (LiveAssignments.operate (s := (Aquarium.empty, blankStore)) .empty takeover) _

/-- What was saved while the script was there is restored when it is gone: the next script has its
pump. -/
theorem newcomer_finds_pump :
    let restored := (ownerless.restoreAll (owned.saveAll blankStore).state).state
    ownerless.LiveAssignments ∧
      (restored.addController "new" (scripted [])).answer = some (.ofNat 0) ∧
      .ofNat 0 ∈
        (restored.addController "new" (scripted [])).state.assignedIds (.ofNat 0) := by
  have hadd : ((ownerless.restoreAll (owned.saveAll blankStore).state).state.addController "new"
      (scripted [])).answer = some (.ofNat 0) := by
    decide +kernel
  have hended : (ownerless.ending (owned.saveAll blankStore).state
      ⟨.actuator, .ofNat 0⟩).toOption = some .applied := by
    decide +kernel
  have happlied : ownerless.ending (owned.saveAll blankStore).state ⟨.actuator, .ofNat 0⟩ =
      .ok .applied := by
    revert hended
    cases ownerless.ending (owned.saveAll blankStore).state ⟨.actuator, .ofNat 0⟩ with
    | error f => intro h; cases h
    | ok ending => intro h; rw [Option.some.inj h]
  obtain ⟨-, hadopted, hsource⟩ :=
    restored_assignments_live_iff ownerless_live (owned.saveAll blankStore).state
  refine ⟨ownerless_live, hadd, (hadopted "new" _ _ hadd _).mpr ?_⟩
  exact (hsource owned blankStore (Memory.exact _) (by decide +kernel) rfl (.ofNat 0) _ rfl _).mpr
    ⟨happlied, rfl⟩

/-- **Restoring can plant a stale assignment.**  Nothing that is saved fails, and assignments are
live before restoring, but not after it; and the script that is added then has a pump from the
start. -/
theorem stale_assignment_is_restored :
    let store := (owned.saveAll blankStore).state
    let restored := (ownerless.restoreAll store).state
    (owned.saveAll blankStore).answer = ⟨2, 0, 0, 0⟩ ∧ ownerless.LiveAssignments ∧
      ¬ restored.LiveAssignments ∧
      (restored.addController "new" (scripted [])).state.assignedIds (.ofNat 0) = [.ofNat 0] := by
  refine ⟨by decide +kernel, ownerless_live, ?_, by decide +kernel⟩
  intro hrestored
  have hstale : ((ownerless.restoreAll (owned.saveAll blankStore).state).state.actuators.get?
      (.ofNat 0)).map ActuatorSlot.controller = some (.ofNat 0) := by
    decide +kernel
  obtain ⟨s, hs, hcontroller⟩ := Option.map_eq_some_iff.mp hstale
  rcases hrestored _ s hs with hnone | hregistered
  · rw [hcontroller] at hnone
    cases hnone
  · rw [contains_restoreAll, hcontroller] at hregistered
    cases hregistered

end Aquarium

end AquariumControl
