import AquariumControl.Proofs.Group
import AquariumControl.Proofs.Ownership
import AquariumControl.Proofs.Thermostat

/-!
# Outputs that are chosen anew

A thermostat drives the two outputs that it has now.  It keeps no note of those that it had before:
to choose another output, or to load a record with another one, switches nothing, and later runs
command the new one only.  So an output that was on when it was given up stays on.

* `Actuators.Working` — every driver works and goes on working, whoever commands it.
* `Thermostat.Names` and `Thermostat.Asks` — the outputs of a thermostat, and the one that its state
  wants on.
* `Thermostat.run_working` — what a run does to every actuator of its controller.
* `Thermostat.Event` and `Thermostat.after` — runs with settings, loads and resets between them.
* `Thermostat.stays_as_last_driven` — an output is as the last evaluation left it that found it
  among the outputs.
-/

set_option autoImplicit false

namespace AquariumControl

variable {δ : Type}

/-! ## Plants whose drivers all work -/

namespace Plant

theorem owns_eq_identity (p : Plant δ) (controller id : SlotId) :
    p.owns controller id = ((p.actuators.get? id).map ActuatorSlot.identity).any
      fun identity => identity.2.2 == controller := by
  rw [owns]
  cases p.actuators.get? id <;> rfl

/-- Nobody gains or loses an actuator by what happens on behalf of a controller. -/
theorem MovedBy.owns {controller : SlotId} {p p' : Plant δ} (h : p.MovedBy controller p')
    (other id : SlotId) : p'.owns other id = p.owns other id := by
  rw [owns_eq_identity, h.identity, ← owns_eq_identity]

end Plant

variable [Actuator δ]

/-- Every driver works, and still works after any commands. -/
def Actuators.Working (actuators : Actuators δ) : Prop :=
  ∀ id slot, actuators.get? id = some slot → Actuator.Dependable slot.device

namespace Actuators.Working

variable {p : Plant δ}

/-- Where all drivers work, to own is to command dependably. -/
theorem dependable (h : p.actuators.Working) {c id : SlotId} (howns : p.owns c id = true) :
    p.Dependable c id := by
  obtain ⟨slot, hget, hc⟩ := Plant.exists_of_owns howns
  exact ⟨slot, hget, hc, h id slot hget⟩

theorem switch (h : p.actuators.Working) (c id : SlotId) (on : Bool) :
    (p.switch c id on).2.actuators.Working := by
  intro j slot hj
  rw [Plant.get?_switch] at hj
  split at hj
  · obtain ⟨old, hold, rfl⟩ := Option.map_eq_some_iff.mp hj
    split
    · exact ActuatorSlot.dependable_switch (h id old hold) on
    · exact h id old hold
  · exact h j slot hj

theorem perform {α : Type} (h : p.actuators.Working) (c : SlotId) (program : Command α) :
    (program.perform c p).2.actuators.Working :=
  Command.perform_induction (P := fun q => q.actuators.Working) c
    (fun _ id on hq => hq.switch c id on) (fun _ _ hq => hq) program p h

end Actuators.Working

/-- Relays all work that refuse nothing. -/
theorem Actuators.working_of_failure_none {actuators : Actuators Relay}
    (h : ∀ i, ((actuators.get? (.slot i)).all fun s => s.device.failure = .none) = true) :
    actuators.Working := by
  intro id slot hid
  cases id with
  | unassigned => cases hid
  | slot i =>
    have hslot := h i
    rw [hid, Option.all_some, decide_eq_true_eq] at hslot
    exact Relay.dependable hslot

/-- What comes after a question about an actuator depends on the answer. -/
theorem Command.perform_owns_bind {α : Type} (c id : SlotId) (f : Bool → Command α) (p : Plant δ) :
    (Command.owns id >>= f).perform c p = (f (p.owns c id)).perform c p := rfl

namespace Thermostat

/-! ## One run -/

/-- The actuator is one of the outputs. -/
def Names (r : Thermostat) (id : SlotId) : Prop :=
  id = r.heater ∨ id = r.cooler

/-- The state wants the actuator on. -/
def Asks (r : Thermostat) (id : SlotId) : Prop :=
  (r.state = .heating ∧ id = r.heater) ∨ (r.state = .cooling ∧ id = r.cooler)

instance (r : Thermostat) (id : SlotId) : Decidable (r.Names id) :=
  inferInstanceAs (Decidable (_ ∨ _))

instance (r : Thermostat) (id : SlotId) : Decidable (r.Asks id) :=
  inferInstanceAs (Decidable (_ ∨ _))

variable {c : SlotId} {r : Thermostat} {p : Plant δ}

/-- Driving an output succeeds, and moves it if it is there. -/
theorem perform_drive (hp : p.actuators.Working) (id : SlotId) (on : Bool) :
    ((drive id (p.owns c id) on).perform c p).1 = true ∧
      ∀ j, p.owns c j = true →
        ((drive id (p.owns c id) on).perform c p).2.isOn j = if j = id then on else p.isOn j := by
  cases howns : p.owns c id with
  | false =>
    refine ⟨rfl, fun j hj => ?_⟩
    rw [if_neg]
    · rfl
    · rintro rfl
      rw [howns] at hj
      cases hj
  | true =>
    have hd := hp.dependable howns
    rw [drive, if_pos rfl, Command.perform_switch]
    refine ⟨hd.switch_answer on, fun j _ => ?_⟩
    split
    · next hj => rw [hj, hd.reliable.isOn_switch, hd.switch_answer, if_pos rfl]
    · next hj => rw [Plant.isOn_switch_of_ne _ _ _ hj]

/-- One output is driven off and then another one as wanted, which may be the same. -/
theorem perform_drive_both (hp : p.actuators.Working) (first second : SlotId) (on : Bool) :
    let program : Command Bool := do
      let ok ← drive first (p.owns c first) false
      let ok' ← drive second (p.owns c second) on
      pure (ok && ok')
    (program.perform c p).1 = true ∧
      ∀ j, p.owns c j = true → (program.perform c p).2.isOn j =
        if j = second then on else if j = first then false else p.isOn j := by
  simp only [Command.perform_bind, Command.perform_pure]
  -- the first command gives nothing away, so the second is given to what was there before
  have howns := fun j => (Command.movedBy_perform c (drive first (p.owns c first) false) p).owns c j
  obtain ⟨hok, hon⟩ := perform_drive (c := c) hp first false
  obtain ⟨hok', hon'⟩ := perform_drive (c := c)
    (hp.perform c (drive first (p.owns c first) false)) second on
  rw [howns] at hok' hon'
  refine ⟨by rw [hok, hok']; rfl, fun j hj => ?_⟩
  rw [hon' j (by rw [howns, hj]), hon j hj]

/-- **Driving the outputs that are there.**  It succeeds, each of them is then as the state wants
it, and no other actuator of the controller has moved. -/
theorem perform_apply_owned (hp : p.actuators.Working) (r : Thermostat) :
    ((r.apply (p.owns c r.heater) (p.owns c r.cooler)).perform c p).1 = true ∧
      ∀ id, p.owns c id = true →
        ((r.apply (p.owns c r.heater) (p.owns c r.cooler)).perform c p).2.isOn id =
          if r.Names id then decide (r.Asks id) else p.isOn id := by
  rw [apply]
  split
  · next hstate =>
    obtain ⟨hok, hon⟩ := perform_drive_both (c := c) hp r.cooler r.heater true
    refine ⟨hok, fun id hid => (hon id hid).trans ?_⟩
    by_cases hheater : id = r.heater <;> simp [Names, Asks, hstate, hheater]
  · next hstate =>
    obtain ⟨hok, hon⟩ := perform_drive_both (c := c) hp r.heater r.cooler (r.state = .cooling)
    refine ⟨hok, fun id hid => (hon id hid).trans ?_⟩
    by_cases hcooler : id = r.cooler <;> simp [Names, Asks, hstate, hcooler]

/-- **The three courses of a run**, whichever outputs are there: it is skipped for want of a
reading, or it finds all settled, or it takes the next state and drives the outputs to it. -/
theorem run_courses (c : SlotId) (r : Thermostat) (p : Plant δ) (s : Situation) :
    (s.readings.get? r.sensor = none ∧ (r.run s).perform c p = ((.skipped, r), p)) ∨
    ∃ t state, s.readings.get? r.sensor = some t ∧
      state = r.next t (p.owns c r.heater) (p.owns c r.cooler) ∧
      ((state = r.state ∧ r.synced = true ∧ (r.run s).perform c p = ((.ran, r), p)) ∨
        (state ≠ r.state ∨ r.synced = false) ∧ (r.run s).perform c p =
          let driven := ({ r with state := state }.apply (p.owns c r.heater)
            (p.owns c r.cooler)).perform c p
          ((.ran, { r with state := state, synced := driven.1 }), driven.2)) := by
  rw [run]
  cases ht : s.readings.get? r.sensor with
  | none => exact .inl ⟨rfl, rfl⟩
  | some t =>
    refine .inr ⟨t, _, rfl, rfl, ?_⟩
    rw [Command.perform_owns_bind, Command.perform_owns_bind]
    by_cases h : r.next t (p.owns c r.heater) (p.owns c r.cooler) ≠ r.state ∨ r.synced = false
    · refine .inr ⟨h, ?_⟩
      rw [if_pos h, Command.perform_bind, Command.perform_pure]
    · rw [if_neg h]
      simp only [ne_eq, not_or, Decidable.not_not, Bool.not_eq_false] at h
      exact .inl ⟨h.1, h.2, rfl⟩

/-- While the thermostat believes its outputs to be in order, those that are there are. -/
def Settled (c : SlotId) (r : Thermostat) (p : Plant δ) : Prop :=
  r.synced = true →
    ∀ id, p.owns c id = true → r.Names id → p.isOn id = decide (r.Asks id)

/-- **What a run does to the actuators of its controller.**  If it is evaluated, its outputs are as
the new state wants them and all else is as before; if it is not, nothing has changed at all. -/
theorem run_working (hp : p.actuators.Working) (hset : Settled c r p) (s : Situation) :
    (∀ id, ((r.run s).perform c p).1.2.Names id ↔ r.Names id) ∧
    (((r.run s).perform c p).1.1 = .ran → ∀ id, p.owns c id = true →
      ((r.run s).perform c p).2.isOn id =
        if r.Names id then decide (((r.run s).perform c p).1.2.Asks id) else p.isOn id) ∧
    (((r.run s).perform c p).1.1 ≠ .ran → (r.run s).perform c p = ((.skipped, r), p)) := by
  rcases run_courses c r p s with ⟨-, h⟩ | ⟨t, state, -, -, ⟨-, hsynced, h⟩ | ⟨-, h⟩⟩ <;> rw [h]
  · refine ⟨fun _ => .rfl, fun hran => ?_, fun _ => rfl⟩
    cases hran
  · refine ⟨fun _ => .rfl, fun _ id hid => ?_, fun hskip => absurd rfl hskip⟩
    split
    · next hname => exact hset hsynced id hid hname
    · rfl
  · obtain ⟨-, hon⟩ := perform_apply_owned (c := c) hp { r with state := state }
    exact ⟨fun _ => .rfl, fun _ => hon, fun hskip => absurd rfl hskip⟩

/-! ## Histories -/

/-- What happens to a thermostat and its outputs. -/
inductive Event
  | run (s : Situation)
  | set (x : Setting)
  /-- Bytes that it is to take its settings and its state from. -/
  | load (bytes : List UInt8)
  | reset

/-- The thermostat and its plant after an event.  Bytes that are refused change nothing. -/
def Event.after (c : SlotId) (x : Thermostat × Plant δ) : Event → Thermostat × Plant δ
  | .run s => (((x.1.run s).perform c x.2).1.2, ((x.1.run s).perform c x.2).2)
  | .set setting => (x.1.set setting, x.2)
  | .load bytes =>
    match Rule.load x.1 bytes with
    | .ok (r, _) => (r, x.2)
    | .error _ => x
  | .reset => (x.1.reset, x.2)

/-- The thermostat and its plant after a history. -/
def after (c : SlotId) (x : Thermostat × Plant δ) (history : List Event) : Thermostat × Plant δ :=
  history.foldl (Event.after c) x

/-- The event is an evaluation with the actuator among the outputs. -/
def Event.Drives (c id : SlotId) (x : Thermostat × Plant δ) : Event → Prop
  | .run s => ((x.1.run s).perform c x.2).1.1 = .ran ∧ x.1.Names id
  | _ => False

/-- No event of a history drives the actuator. -/
def Undriven (c id : SlotId) : Thermostat × Plant δ → List Event → Prop
  | _, [] => True
  | x, e :: rest => ¬e.Drives c id x ∧ Undriven c id (e.after c x) rest

/-- All drivers work, and what the thermostat believes of its outputs is so. -/
structure InHand (c : SlotId) (x : Thermostat × Plant δ) : Prop where
  working : x.2.actuators.Working
  settled : Settled c x.1 x.2

variable {x : Thermostat × Plant δ}

/-- No event gives an actuator to anyone or takes it away. -/
theorem Event.owns_after (e : Event) (c id : SlotId) :
    (e.after c x).2.owns c id = x.2.owns c id := by
  cases e with
  | run s => exact (Command.movedBy_perform c _ _).owns c id
  | load bytes =>
    rw [after]
    split <;> rfl
  | set setting => rfl
  | reset => rfl

theorem Settled.of_not_synced (h : r.synced = false) : Settled c r p := by
  intro hsynced
  rw [h] at hsynced
  cases hsynced

/-- Choosing an output anew takes `synced` back; no other setting concerns the outputs. -/
theorem Settled.set (h : Settled c r p) (setting : Setting) : Settled c (r.set setting) p := by
  cases setting with
  | heater id => exact .of_not_synced rfl
  | cooler id => exact .of_not_synced rfl
  | _ => exact h

theorem Settled.run (hp : p.actuators.Working) (h : Settled c r p) (s : Situation) :
    Settled c ((r.run s).perform c p).1.2 ((r.run s).perform c p).2 := by
  obtain ⟨hnames, hran, hskipped⟩ := run_working hp h s
  by_cases hstatus : ((r.run s).perform c p).1.1 = .ran
  · -- whatever it claims now, the outputs are as the state wants them
    intro _ id hid hname
    rw [(Command.movedBy_perform c _ _).owns] at hid
    rw [hran hstatus id hid, if_pos ((hnames id).mp hname)]
  · rw [hskipped hstatus]
    exact h

/-- **One event keeps the thermostat in hand.** -/
theorem InHand.event (h : InHand c x) (e : Event) : InHand c (e.after c x) := by
  cases e with
  | run s => exact ⟨h.working.perform c _, h.settled.run h.working s⟩
  | set setting => exact ⟨h.working, h.settled.set setting⟩
  | load bytes =>
    rw [Event.after]
    split
    · next hload => exact ⟨h.working, .of_not_synced (synced_of_load hload)⟩
    · exact h
  | reset => exact ⟨h.working, .of_not_synced rfl⟩

/-- An evaluation leaves its outputs as the state wants them. -/
theorem Event.isOn_of_drives (h : InHand c x) {id : SlotId} (hid : x.2.owns c id = true) {e : Event}
    (hdrives : e.Drives c id x) : (e.after c x).2.isOn id = decide ((e.after c x).1.Asks id) := by
  cases e with
  | run s =>
    obtain ⟨-, hran, -⟩ := run_working h.working h.settled s
    exact (hran hdrives.1 id hid).trans (if_pos hdrives.2)
  | _ => exact hdrives.elim

/-- No other event moves an actuator, and no evaluation one that is not an output. -/
theorem Event.isOn_of_not_drives (h : InHand c x) {id : SlotId} (hid : x.2.owns c id = true)
    {e : Event} (hnot : ¬e.Drives c id x) : (e.after c x).2.isOn id = x.2.isOn id := by
  cases e with
  | run s =>
    obtain ⟨-, hran, hskipped⟩ := run_working h.working h.settled s
    by_cases hstatus : ((x.1.run s).perform c x.2).1.1 = .ran
    · exact (hran hstatus id hid).trans (if_neg fun hname => hnot ⟨hstatus, hname⟩)
    · exact congrArg (fun out => out.2.isOn id) (hskipped hstatus)
  | load bytes =>
    rw [after]
    split <;> rfl
  | set setting => rfl
  | reset => rfl

theorem InHand.after (h : InHand c x) (history : List Event) : InHand c (after c x history) := by
  induction history generalizing x with
  | nil => exact h
  | cons e rest ih => exact ih (h.event e)

theorem owns_after (history : List Event) (c id : SlotId) :
    (after c x history).2.owns c id = x.2.owns c id := by
  induction history generalizing x with
  | nil => rfl
  | cons e rest ih => exact ih.trans (e.owns_after c id)

/-- An actuator that no event drives stays as it is. -/
theorem isOn_of_undriven (h : InHand c x) {id : SlotId} (hid : x.2.owns c id = true)
    {history : List Event} (hundriven : Undriven c id x history) :
    (after c x history).2.isOn id = x.2.isOn id := by
  induction history generalizing x with
  | nil => rfl
  | cons e rest ih =>
    refine (ih (h.event e) ?_ hundriven.2).trans (Event.isOn_of_not_drives h hid hundriven.1)
    rw [e.owns_after, hid]

/-- **An output is as the last evaluation left it.**  Through any runs, settings, loads and resets
of a thermostat that claims nothing about its outputs at first, with drivers that all work, an
actuator of its controller is on just when the last evaluation that found it among the outputs found
it the heater and heated, or the cooler and cooled.  For the outputs of the last run that is the
state it came to; one that was given up since stays as it was. -/
theorem stays_as_last_driven (hsynced : r.synced = false) (hp : p.actuators.Working)
    {id : SlotId} (hid : p.owns c id = true) (front : List Event) {e : Event}
    (hdrives : e.Drives c id (after c (r, p) front)) {back : List Event}
    (hback : Undriven c id (after c (r, p) (front ++ [e])) back) :
    (after c (r, p) (front ++ e :: back)).2.isOn id = true ↔
      (after c (r, p) (front ++ [e])).1.Asks id := by
  have hstart : InHand c (r, p) := ⟨hp, .of_not_synced hsynced⟩
  have hfront := hstart.after front
  have hsplit : after c (r, p) (front ++ [e]) = e.after c (after c (r, p) front) := by
    simp only [after, List.foldl_append, List.foldl_cons, List.foldl_nil]
  have hlater : after c (r, p) (front ++ e :: back) =
      after c (after c (r, p) (front ++ [e])) back := by
    simp only [after, List.foldl_append, List.foldl_cons, List.foldl_nil]
  rw [hlater, isOn_of_undriven (hstart.after _) ((owns_after _ c id).trans hid) hback, hsplit,
    Event.isOn_of_drives hfront ((owns_after front c id).trans hid) hdrives, decide_eq_true_iff]

/-- Three relays of the controller in place 0, all off. -/
def trio : Plant Relay :=
  ⟨(Rig.create (.ofNat 0) (.script Script.default)
    [(.ofNat 0, false), (.ofNat 0, false), (.ofNat 0, false)]).actuators, [], []⟩

theorem working_trio : trio.actuators.Working :=
  Actuators.working_of_failure_none (by decide)

/-- **A heater that is given up stays on.**  The thermostat heats with the first relay, is given the
third one for its heater and goes on heating.  Both relays are then on, and the first is neither its
heater nor its cooler. -/
theorem released_heater_stays_on :
    let x := after (.ofNat 0) (fitted, trio) [.run cold, .set (.heater (.ofNat 2))]
    fitted.synced = false ∧ trio.actuators.Working ∧
    (∀ id ∈ [SlotId.ofNat 0, .ofNat 1, .ofNat 2], trio.owns (.ofNat 0) id = true) ∧
    trio.isOn (.ofNat 0) = false ∧
    (after (.ofNat 0) (fitted, trio) [.run cold]).2.isOn (.ofNat 0) = true ∧
    ((x.1.run cold).perform (.ofNat 0) x.2).1.1 = .ran ∧
    ((x.1.run cold).perform (.ofNat 0) x.2).2.isOn (.ofNat 0) = true ∧
    ¬((x.1.run cold).perform (.ofNat 0) x.2).1.2.Asks (.ofNat 0) :=
  ⟨rfl, working_trio, by decide, by decide, by decide, by decide, by decide, by decide⟩

/-- It stays on when the thermostat goes over to cooling, which finds the third relay off. -/
theorem released_heater_outlasts_heating :
    let history := [.run cold, .set (.heater (.ofNat 2)), .run warm]
    fitted.synced = false ∧ trio.actuators.Working ∧ trio.owns (.ofNat 0) (.ofNat 0) = true ∧
    Event.Drives (.ofNat 0) (.ofNat 0) (fitted, trio) (.run cold) ∧
    Undriven (.ofNat 0) (.ofNat 0) (after (.ofNat 0) (fitted, trio) [.run cold])
      [.set (.heater (.ofNat 2)), .run warm] ∧
    (after (.ofNat 0) (fitted, trio) [.run cold]).1.Asks (.ofNat 0) ∧
    (after (.ofNat 0) (fitted, trio) history).1.state = .cooling ∧
    (after (.ofNat 0) (fitted, trio) history).2.isOn (.ofNat 0) = true := by
  intro history
  have hdrives : Event.Drives (.ofNat 0) (.ofNat 0) (fitted, trio) (.run cold) :=
    ⟨by decide, by decide⟩
  have hback : Undriven (.ofNat 0) (.ofNat 0) (after (.ofNat 0) (fitted, trio) [.run cold])
      [.set (.heater (.ofNat 2)), .run warm] :=
    ⟨id, fun hrun => absurd hrun.2 (by decide), trivial⟩
  have hasks : (after (.ofNat 0) (fitted, trio) [.run cold]).1.Asks (.ofNat 0) := by decide
  exact ⟨rfl, working_trio, by decide, hdrives, hback, hasks, by decide,
    (stays_as_last_driven rfl working_trio (by decide) [] hdrives hback).mpr hasks⟩

end Thermostat

end AquariumControl
