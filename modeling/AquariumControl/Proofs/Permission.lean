import AquariumControl.Proofs.Lookups

/-!
# Permission and assignment

Whether a rule may command an actuator is asked in two ways: it can ask about the actuator
(`Plant.owns`), which is also what a command depends on, and it can ask for the list of its
actuators.  For a rule that runs in a place both say the same.  They do not for a rule that runs in
no place: nothing is on its list, but it may command every actuator that is assigned to nobody,
because "no place" is compared like any other.

* `Plant.listed` — the list that a rule finds in its buffer.
* `Plant.owns_iff_reference` — the permission, read from the actuators.
* `Plant.Delivers` — a command gets as far as the driver; `Plant.delivers_of_owns` and
  `Plant.switch_of_not_owns`.
* `Plant.permitted_as_listed_iff` — when permission and list agree.
-/

set_option autoImplicit false

namespace AquariumControl

namespace Plant

variable {δ : Type}

/-- What a rule finds at the beginning of its buffer when it has asked for its actuators. -/
def listed (p : Plant δ) (controller : SlotId) (out : List SlotId) : List SlotId :=
  let (total, written) := fill (p.actuators.assignedIds controller) out
  written.take total

theorem listed_eq {p : Plant δ} {controller : SlotId} {out : List SlotId}
    (hroom : (p.actuators.assignedIds controller).length ≤ out.length) :
    p.listed controller out = p.actuators.assignedIds controller := by
  simp only [listed, fill]
  rw [List.take_of_length_le hroom, List.take_left]

theorem owns_iff_reference {p : Plant δ} {controller id : SlotId} :
    p.owns controller id = true ↔ p.actuators.reference id = some controller := by
  rw [owns, Actuators.reference]
  cases p.actuators.get? id with
  | none => simp
  | some slot => simp

variable [Actuator δ]

/-- A command gets as far as the driver: the answer is the driver's, and the place holds what the
driver made of the command. -/
def Delivers (p : Plant δ) (controller id : SlotId) (on : Bool) : Prop :=
  ∃ slot, p.actuators.get? id = some slot ∧
    (p.switch controller id on).1 = (slot.switch on).answer.isOk ∧
    (p.switch controller id on).2.actuators.get? id = some (slot.switch on).state

theorem delivers_of_owns {p : Plant δ} {controller id : SlotId}
    (h : p.owns controller id = true) (on : Bool) : p.Delivers controller id on := by
  obtain ⟨slot, hslot, hc⟩ := exists_of_owns h
  refine ⟨slot, hslot, ?_, ?_⟩
  · rw [switch_answer, hslot, Option.any_some, hc, beq_self_eq_true, Bool.true_and]
  · rw [get?_switch, if_pos rfl, hslot, Option.map_some, if_pos hc]

/-- A command that is not permitted is answered with no, and leaves everything as it was but the
journal. -/
theorem switch_of_not_owns {p : Plant δ} {controller id : SlotId}
    (h : p.owns controller id = false) (on : Bool) :
    (p.switch controller id on).1 = false ∧
      (p.switch controller id on).2.actuators = p.actuators ∧
      (p.switch controller id on).2.switches = p.switches := by
  cases hslot : p.actuators.get? id with
  | none => simp only [switch, hslot, and_self]
  | some slot =>
    have hc : slot.controller ≠ controller := by
      simpa only [owns, hslot, beq_eq_false_iff_ne] using h
    simp only [switch, hslot, if_neg hc, and_self]

/-- **Permission and list agree but for rules in no place.**  In a buffer with room for all of them
a rule finds just the actuators that it may command, unless it runs in no place: its list is empty
then, and it may command the actuators that are assigned to nobody.  What a rule may command is
what names its place.  A permitted command gets as far as the driver, and one that is not permitted
changes no actuator and is not recorded.  For a rule in a registered place, as all rules of an
aquarium are, permission and list agree, with each other and with the list of the aquarium. -/
theorem permitted_as_listed_iff (p : Plant δ) (c id : SlotId) {out : List SlotId}
    (hroom : (p.actuators.assignedIds c).length ≤ out.length) :
    ((p.owns c id = true ↔ id ∈ p.listed c out) ↔
      ¬ (c = .unassigned ∧ p.actuators.reference id = some .unassigned)) ∧
    (p.owns c id = true ↔ p.actuators.reference id = some c) ∧
    (∀ on, p.owns c id = true → p.Delivers c id on) ∧
    (∀ on, p.owns c id = false →
      (p.switch c id on).1 = false ∧ (p.switch c id on).2.actuators = p.actuators ∧
        (p.switch c id on).2.switches = p.switches) ∧
    ∀ (ρ σ : Type) (a : Aquarium ρ δ σ), a.actuators = p.actuators →
      a.controllers.contains c = true →
        (p.owns c id = true ↔ id ∈ p.listed c out) ∧ p.listed c out = a.assignedIds c := by
  have hlisted : id ∈ p.listed c out ↔
      c.isAssigned = true ∧ p.actuators.reference id = some c := by
    rw [listed_eq hroom, Actuators.mem_assignedIds_iff]
  refine ⟨?_, owns_iff_reference, fun on h => delivers_of_owns h on,
    fun on h => switch_of_not_owns h on, fun ρ σ a hsame hregistered => ⟨?_, ?_⟩⟩
  · rw [owns_iff_reference, hlisted]
    cases c with
    | unassigned => simp [SlotId.isAssigned]
    | slot i => simp [SlotId.isAssigned]
  · rw [owns_iff_reference, hlisted]
    exact ⟨fun h => ⟨SlotId.isAssigned_of_contains hregistered, h⟩, And.right⟩
  · rw [listed_eq hroom, Aquarium.assignedIds, if_pos hregistered, hsame]

/-- Two relays that are off, one of nobody and one of controller 0. -/
def strays : Plant Relay :=
  ⟨(Rig.create .unassigned (.script Script.default)
    [(.unassigned, false), (.ofNat 0, false)]).actuators, [], []⟩

/-- The rule in place 0 finds its relay on its list, and may command this one only. -/
theorem owner_is_permitted_as_listed :
    (strays.actuators.assignedIds (.ofNat 0)).length ≤ (List.replicate 2 SlotId.unassigned).length ∧
      strays.listed (.ofNat 0) (List.replicate 2 .unassigned) = [.ofNat 1] ∧
      strays.owns (.ofNat 0) (.ofNat 1) = true ∧ strays.owns (.ofNat 0) (.ofNat 0) = false := by
  have hroom : (strays.actuators.assignedIds (.ofNat 0)).length ≤
      (List.replicate 2 SlotId.unassigned).length := by decide
  refine ⟨hroom, by decide, ?_, ?_⟩
  · exact (permitted_as_listed_iff strays (.ofNat 0) (.ofNat 1) hroom).2.1.mpr (by decide)
  · rw [Bool.eq_false_iff, ne_eq, (permitted_as_listed_iff strays _ _ hroom).2.1]
    decide

/-- **A rule in no place commands what is not on its list.**  Its list is empty, however long the
buffer is, but it may switch the relay of nobody, and the relay goes on. -/
theorem stray_rule_commands_stray_relay :
    strays.listed .unassigned (List.replicate actuatorCapacity .unassigned) = [] ∧
      strays.owns .unassigned (.ofNat 0) = true ∧
      (strays.switch .unassigned (.ofNat 0) true).1 = true ∧
      strays.isOn (.ofNat 0) = false ∧
      (strays.switch .unassigned (.ofNat 0) true).2.isOn (.ofNat 0) = true := by
  decide

end Plant

end AquariumControl
