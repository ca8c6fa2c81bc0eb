import AquariumControl.Aquarium.Basic
import AquariumControl.Bench.Rig
import AquariumControl.Proofs.Group

/-!
# Looking assignments up

The only record of an assignment is the controller that an actuator names.  All that is asked about
assignments is answered from it: which places are assigned to a controller, which actuators are
assigned to a controller object, and which controller an actuator is assigned to.  The answers fit
together, also where an actuator names a controller that is gone.

* `Actuators.reference` — what an actuator names; `Actuators.naming` — the places of the actuators
  that name a controller.
* `Overwrites` — what becomes of the buffer that a caller provides for an answer.
* `Aquarium.mem_assignedIds_iff` — the lists of the controllers, read from the actuators.
* `Aquarium.lookups_agree` — all lookups together.
-/

set_option autoImplicit false

namespace AquariumControl

/-! ## Answers in a buffer -/

/-- An answer that was written over a buffer: all items are counted, those for which there is room
stand at the beginning, and the rest of the buffer is as it was. -/
structure Overwrites {α : Type} (items out : List α) (answer : Nat × List α) : Prop where
  total : answer.1 = items.length
  room : answer.2.length = out.length
  content : ∀ i (hi : i < out.length), answer.2[i]? = some (items[i]?.getD out[i])

theorem overwrites_fill {α : Type} (items out : List α) :
    Overwrites items out (fill items out) := by
  refine ⟨rfl, ?_, fun i hi => ?_⟩
  · simp only [fill, List.length_append, List.length_take, List.length_drop]
    omega
  · simp only [fill]
    rcases Nat.lt_or_ge i items.length with hlt | hge
    · have htake : i < (items.take out.length).length := by
        rw [List.length_take]
        omega
      rw [List.getElem?_append_left htake, List.getElem?_take_of_lt hi,
        List.getElem?_eq_getElem hlt, Option.getD_some]
    · have htake : (items.take out.length).length = items.length := by
        rw [List.length_take]
        omega
      have hrest : items.length + (i - items.length) = i := by omega
      rw [List.getElem?_append_right (by omega), htake, List.getElem?_drop, hrest,
        List.getElem?_eq_getElem hi, List.getElem?_eq_none hge, Option.getD_none]

theorem fill_nil {α : Type} (out : List α) : fill [] out = (0, out) := by
  rw [fill, List.take_nil, List.nil_append]
  rfl

/-! ## What the actuators name -/

namespace Actuators

variable {δ : Type}

/-- The controller that the actuator in a place names, if there is an actuator. -/
def reference (actuators : Actuators δ) (id : SlotId) : Option SlotId :=
  (actuators.get? id).map ActuatorSlot.controller

/-- All places that an actuator can have, in ascending order. -/
def allPlaces : List SlotId :=
  (List.range actuatorCapacity).map SlotId.ofNat

theorem ascending_allPlaces : allPlaces.Pairwise fun id id' => id.toInt < id'.toInt := by
  rw [allPlaces, List.pairwise_map]
  refine List.pairwise_lt_range.imp_of_mem fun {i j} hi hj hij => ?_
  have hcapacity : actuatorCapacity = 24 := rfl
  rw [List.mem_range] at hi hj
  rw [SlotId.ofNat_of_lt (by omega : i < 128), SlotId.ofNat_of_lt (by omega : j < 128)]
  exact Int.ofNat_lt.mpr hij

theorem nodup_allPlaces : allPlaces.Nodup :=
  ascending_allPlaces.imp fun hlt heq => by
    rw [heq] at hlt
    exact Int.lt_irrefl _ hlt

theorem mem_allPlaces {actuators : Actuators δ} {id : SlotId} {slot : ActuatorSlot δ}
    (h : actuators.get? id = some slot) : id ∈ allPlaces := by
  cases id with
  | unassigned => cases h
  | slot i =>
    exact List.mem_map.mpr
      ⟨i.val, List.mem_range.mpr (Registry.lt_capacity_of_get? h), SlotId.ofNat_val i⟩

/-- The places of the actuators that name a controller, in ascending order. -/
def naming (actuators : Actuators δ) (controller : SlotId) : List SlotId :=
  allPlaces.filter fun id => actuators.reference id == some controller

theorem mem_naming {actuators : Actuators δ} {controller id : SlotId} :
    id ∈ actuators.naming controller ↔ actuators.reference id = some controller := by
  rw [naming, List.mem_filter, beq_iff_eq, and_iff_right_iff_imp]
  intro h
  obtain ⟨slot, hslot, -⟩ := Option.map_eq_some_iff.mp h
  exact mem_allPlaces hslot

theorem ascending_naming (actuators : Actuators δ) (controller : SlotId) :
    (actuators.naming controller).Pairwise fun id id' => id.toInt < id'.toInt :=
  List.Pairwise.filter _ ascending_allPlaces

theorem mem_assignedIds_iff {actuators : Actuators δ} {controller id : SlotId} :
    id ∈ actuators.assignedIds controller ↔
      controller.isAssigned = true ∧ actuators.reference id = some controller := by
  rw [mem_assignedIds, reference, Option.map_eq_some_iff]
  constructor
  · rintro ⟨slot, hslot, hassigned, hnames⟩
    exact ⟨hassigned, slot, hslot, hnames⟩
  · rintro ⟨hassigned, slot, hslot, hnames⟩
    exact ⟨slot, hslot, hassigned, hnames⟩

/-- The group of a controller are the actuators that name it. -/
theorem assignedIds_eq_naming (actuators : Actuators δ) {controller : SlotId}
    (h : controller.isAssigned = true) :
    actuators.assignedIds controller = actuators.naming controller := by
  rw [assignedIds, assigned, Registry.entries_eq, List.filter_filterMap, List.map_filterMap, naming,
    allPlaces, List.filter_map, ← List.filterMap_eq_map, ← List.filterMap_eq_filter,
    List.filterMap_filterMap]
  refine congrFun (congrArg List.filterMap (funext fun i => ?_)) _
  simp only [h, Function.comp_apply, reference, Bool.true_and, Option.guard]
  rcases (actuators.get? (SlotId.ofNat i)).eq_none_or_eq_some with hfree | ⟨slot, hslot⟩
  · simp only [hfree]
    rfl
  · simp only [hslot, Option.map_some]
    by_cases hnames : slot.controller = controller <;> simp [Option.filter, hnames]

/-- Each actuator of a group stands under its own place. -/
theorem map_some_assigned (actuators : Actuators δ) (controller : SlotId) :
    (actuators.assigned controller).map some =
      (actuators.assignedIds controller).map fun id => (actuators.get? id).map (id, ·) := by
  rw [assignedIds, List.map_map]
  refine List.map_congr_left fun e he => ?_
  rw [Function.comp_apply, (mem_assigned.mp he).1, Option.map_some]

end Actuators

/-! ## The lookups of an aquarium -/

theorem SlotId.isAssigned_of_contains {α : Type} {capacity : Nat} {r : Registry α capacity}
    {id : SlotId} (h : r.contains id = true) : id.isAssigned = true := by
  cases id with
  | unassigned => cases h
  | slot i => rfl

namespace Aquarium

variable {ρ δ σ : Type} (a : Aquarium ρ δ σ)

theorem assignedIds_of_contains {c : SlotId} (h : a.controllers.contains c = true) :
    a.assignedIds c = a.actuators.naming c := by
  rw [assignedIds, if_pos h, Actuators.assignedIds_eq_naming _ (SlotId.isAssigned_of_contains h)]

theorem assignedIds_of_not_contains {c : SlotId} (h : a.controllers.contains c = false) :
    a.assignedIds c = [] := by
  rw [assignedIds, h]
  rfl

/-- A controller object has the actuators of the place that it is found in. -/
theorem map_some_assignedTo (c : SlotId) :
    (a.assignedTo (.occupant c)).map some =
      (a.assignedIds c).map fun id => (a.actuators.get? id).map (id, ·) := by
  rw [assignedTo, Registry.find?_occupant, assignedIds]
  split
  · next hfound =>
    split at hfound
    · cases hfound
    · next hfree => rw [if_neg hfree, List.map_nil, List.map_nil]
  · next place hfound =>
    split at hfound
    · next hregistered =>
      rw [← Option.some.inj hfound, if_pos hregistered, Actuators.map_some_assigned]
    · cases hfound

theorem controllerOf_eq_some_iff {id c : SlotId} :
    a.controllerOf id = some c ↔
      a.controllers.contains c = true ∧ a.actuators.reference id = some c := by
  rw [controllerOf, Actuators.reference]
  cases a.actuators.get? id with
  | none => simp
  | some slot =>
    rw [Option.map_some, Option.some.injEq]
    dsimp only
    split
    · next hregistered =>
      rw [Option.some.injEq]
      exact ⟨fun h => ⟨h ▸ hregistered, h⟩, And.right⟩
    · next hfree =>
      constructor
      · intro h
        cases h
      · rintro ⟨hregistered, rfl⟩
        exact absurd hregistered hfree

/-- **A place is in the list of the controller that its actuator is assigned to**, and in no
other. -/
theorem mem_assignedIds_iff {c id : SlotId} :
    id ∈ a.assignedIds c ↔ a.controllerOf id = some c := by
  rw [controllerOf_eq_some_iff]
  cases h : a.controllers.contains c with
  | false => simp [a.assignedIds_of_not_contains h]
  | true => simp [a.assignedIds_of_contains h, Actuators.mem_naming]

theorem length_assignedIds {c : SlotId} (h : a.controllers.contains c = true) :
    (a.assignedIds c).length =
      (Registry.entries a.actuators).countP fun e => e.2.controller == c := by
  have hassigned : c.isAssigned = true := SlotId.isAssigned_of_contains h
  rw [assignedIds, if_pos h, Actuators.assignedIds, List.length_map, Actuators.assigned,
    ← List.countP_eq_length_filter, hassigned]
  simp only [Bool.true_and]

/-- **The lookups agree and divide the actuators up.**  To a place without a controller, and to no
place, nothing is assigned: nothing is written into the buffer of the caller.  To a registered
controller those actuators are assigned that name it: all of them are counted, and their places are
written in ascending order as far as the buffer goes.  Asking with the controller object gives the
same count, and the actuators in the same places.  An actuator is in the list of just the
controller that it is assigned to; so different controllers have different actuators, and together
they have all that are assigned to a registered one. -/
theorem lookups_agree :
    (∀ c, c = .unassigned ∨ a.controllers.contains c = false →
      (∀ out, fill (a.assignedIds c) out = (0, out)) ∧
        ∀ out, fill ((a.assignedTo (.occupant c)).map some) out = (0, out)) ∧
    (∀ c, a.controllers.contains c = true →
      (a.actuators.naming c).Pairwise (fun id id' => id.toInt < id'.toInt) ∧
        (∀ out, Overwrites (a.actuators.naming c) out (fill (a.assignedIds c) out) ∧
          (fill (a.assignedIds c) out).1 =
            (Registry.entries a.actuators).countP fun e => e.2.controller == c) ∧
        ∀ out, Overwrites
          ((a.actuators.naming c).map fun id => (a.actuators.get? id).map (id, ·)) out
          (fill ((a.assignedTo (.occupant c)).map some) out)) ∧
    (∀ c id, id ∈ a.assignedIds c ↔ a.controllerOf id = some c) ∧
    (∀ c c' id, c ≠ c' → id ∈ a.assignedIds c → id ∉ a.assignedIds c') ∧
    ∀ id, (∃ c, id ∈ a.assignedIds c) ↔ (a.controllerOf id).isSome = true := by
  refine ⟨?_, ?_, fun c id => a.mem_assignedIds_iff, ?_, fun id => ?_⟩
  · intro c hc
    have hfree : a.controllers.contains c = false := by
      rcases hc with rfl | hfree
      · rfl
      · exact hfree
    rw [map_some_assignedTo, a.assignedIds_of_not_contains hfree]
    exact ⟨fill_nil, fill_nil⟩
  · intro c hc
    refine ⟨a.actuators.ascending_naming c, fun out => ⟨?_, a.length_assignedIds hc⟩, fun out => ?_⟩
    · rw [a.assignedIds_of_contains hc]
      exact overwrites_fill _ out
    · rw [map_some_assignedTo, a.assignedIds_of_contains hc]
      exact overwrites_fill _ out
  · intro c c' id hne hc hc'
    rw [mem_assignedIds_iff] at hc hc'
    exact hne (Option.some.inj (hc.symm.trans hc'))
  · simp only [mem_assignedIds_iff, Option.isSome_iff_exists]

/-- Two scripts.  Relays 0 and 5 name the first one and relay 1 the second one, relay 2 is gone,
relay 3 names nobody, and relay 4 names a place without a controller. -/
def sparse : Aquarium AnyRule Relay Probe :=
  let script : AnyRule := .script Script.default
  let bare : Aquarium AnyRule Relay Probe := ((empty.placeController
    (.fresh "first" script)).state.placeController (.fresh "second" script)).state
  let relays := (Rig.create .unassigned script [(.ofNat 0, false), (.ofNat 1, false),
    (.ofNat 0, false), (.unassigned, false), (.ofNat 5, false), (.ofNat 0, true)]).actuators
  ({ bare with actuators := relays }.removeActuator (.ofNat 2)).state

/-- With room for one place, two are counted and one is written.  The relay whose controller is gone
is found from neither side. -/
theorem sparse_relays_are_found :
    (sparse.controllers.contains (.ofNat 0) = true ∧
      Overwrites [.ofNat 0, .ofNat 5] [.unassigned]
        (fill (sparse.assignedIds (.ofNat 0)) [.unassigned])) ∧
    (sparse.controllers.contains (.ofNat 5) = false ∧
      fill (sparse.assignedIds (.ofNat 5)) [.ofNat 9] = (0, [.ofNat 9])) ∧
    (SlotId.ofNat 0 ≠ .ofNat 1 ∧ .ofNat 5 ∈ sparse.assignedIds (.ofNat 0) ∧
      .ofNat 5 ∉ sparse.assignedIds (.ofNat 1)) ∧
    ¬ ∃ c, .ofNat 4 ∈ sparse.assignedIds c := by
  obtain ⟨hnone, hregistered, hmem, hdisjoint, hunion⟩ := lookups_agree sparse
  have hnaming : sparse.actuators.naming (.ofNat 0) = [.ofNat 0, .ofNat 5] := by decide
  have hfive : .ofNat 5 ∈ sparse.assignedIds (.ofNat 0) := (hmem _ _).mpr (by decide)
  refine ⟨⟨by decide, ?_⟩, ⟨by decide, (hnone _ (.inr (by decide))).1 _⟩,
    ⟨by decide, hfive, hdisjoint _ _ _ (by decide) hfive⟩, ?_⟩
  · have hwritten := ((hregistered (.ofNat 0) (by decide)).2.1 [.unassigned]).1
    rwa [hnaming] at hwritten
  · rw [hunion]
    decide

end Aquarium

end AquariumControl
