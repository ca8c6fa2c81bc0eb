import AquariumControl.Proofs.Group
import AquariumControl.Proofs.Ownership
import AquariumControl.Proofs.Readings
import AquariumControl.Rule.Standard

/-!
# Controllers do not interfere

What a standard rule does depends on the readings, the time and its own actuators only.  So two
aquariums that agree on these behave alike where one controller is concerned, whatever else is in
them and whatever the other rules do.

* `Actuators.own` — the driver in a place, if it is a given controller's; `Actuators.SameOwn` — two
  sets of actuators in which a controller owns the same drivers in the same places.
* `Command.Discreet` — a program that does not ask for the state of actuators; the programs of the
  standard rules are discreet.
* `Command.perform_congr` — a discreet program cannot tell two plants apart in which its controller
  owns the same.
* `Aquarium.runCycle_at` — a cycle seen from one controller: the others do not touch what it owns.
* `Aquarium.AgreeOn` — two aquariums that agree where one controller is concerned.
-/

set_option autoImplicit false

namespace AquariumControl

/-! ## What a controller owns -/

namespace Actuators

variable {δ : Type}

/-- The driver in a place, if it is a controller's. -/
def own (actuators : Actuators δ) (controller id : SlotId) : Option δ :=
  ((actuators.get? id).filter fun s => s.controller == controller).map ActuatorSlot.device

/-- The group of a controller can be read off what it owns. -/
theorem assignedIds_eq (actuators : Actuators δ) (controller : SlotId) :
    actuators.assignedIds controller =
      (List.range actuatorCapacity).filterMap fun i =>
        if controller.isAssigned then
          (actuators.own controller (SlotId.ofNat i)).map fun _ => SlotId.ofNat i
        else none := by
  rw [assignedIds, assigned, Registry.entries, Registry.places_eq, List.filterMap_map,
    List.filter_filterMap, List.map_filterMap]
  refine congrFun (congrArg List.filterMap (funext fun i => ?_)) _
  simp only [Function.comp_apply, own]
  cases actuators.get? (SlotId.ofNat i) with
  | none => cases controller.isAssigned <;> rfl
  | some s =>
    cases controller.isAssigned <;> cases hs : s.controller == controller <;>
      simp [Option.filter, hs]

/-- A controller owns the same drivers in the same places. -/
def SameOwn (controller : SlotId) (x y : Actuators δ) : Prop :=
  ∀ id, y.own controller id = x.own controller id

theorem SameOwn.refl (controller : SlotId) (x : Actuators δ) : SameOwn controller x x :=
  fun _ => rfl

theorem SameOwn.symm {controller : SlotId} {x y : Actuators δ} (h : SameOwn controller x y) :
    SameOwn controller y x :=
  fun id => (h id).symm

theorem SameOwn.trans {controller : SlotId} {x y z : Actuators δ} (hxy : SameOwn controller x y)
    (hyz : SameOwn controller y z) : SameOwn controller x z :=
  fun id => (hyz id).trans (hxy id)

theorem SameOwn.assignedIds {controller : SlotId} {x y : Actuators δ}
    (h : SameOwn controller x y) : y.assignedIds controller = x.assignedIds controller := by
  have hown : y.own controller = x.own controller := funext h
  rw [assignedIds_eq, assignedIds_eq, hown]

end Actuators

/-- Whether a driver accepts a command, and what the command makes of it. -/
def Actuator.obey {δ : Type} [Actuator δ] (d : δ) (on : Bool) : Bool × δ :=
  if Actuator.isOn d = on then (true, d)
  else ((Actuator.drive d on).1.isOk, (Actuator.drive d on).2)

theorem ActuatorSlot.obey_device {δ : Type} [Actuator δ] (s : ActuatorSlot δ) (on : Bool) :
    Actuator.obey s.device on = ((s.switch on).answer.isOk, (s.switch on).state.device) := by
  rw [switch, Actuator.obey, isOn]
  split
  · rfl
  · rcases Actuator.drive s.device on with ⟨_ | _, d⟩ <;> rfl

namespace Plant

variable {δ : Type}

theorem owns_eq_own (p : Plant δ) (controller id : SlotId) :
    p.owns controller id = (p.actuators.own controller id).isSome := by
  rw [owns, Actuators.own]
  cases p.actuators.get? id with
  | none => rfl
  | some s => cases hs : s.controller == controller <;> simp [Option.filter, hs]

/-- What happens on behalf of one controller leaves what another one owns as it was. -/
theorem MovedBy.sameOwn {controller other : SlotId} {p p' : Plant δ} (h : p.MovedBy other p')
    (hne : controller ≠ other) : Actuators.SameOwn controller p.actuators p'.actuators := by
  intro id
  have hid := h.identity id
  simp only [Actuators.own]
  cases hget : p.actuators.get? id with
  | none =>
    rw [hget, Option.map_none, Option.map_eq_none_iff] at hid
    rw [hid]
  | some s =>
    by_cases hs : s.controller = controller
    · rw [h.others id s hget (hs ▸ hne)]
    · obtain ⟨s', hget', hs'⟩ := Option.map_eq_some_iff.mp (hid.trans (by rw [hget]; rfl))
      have hc : s'.controller = s.controller := congrArg (·.2.2) hs'
      rw [hget', Option.filter_some_neg (by simp [hc, hs]), Option.filter_some_neg (by simp [hs])]

variable [Actuator δ]

theorem own_switch (p : Plant δ) (controller id : SlotId) (on : Bool) (j : SlotId) :
    (p.switch controller id on).2.actuators.own controller j =
      if j = id then (p.actuators.own controller id).map fun d => (Actuator.obey d on).2
      else p.actuators.own controller j := by
  simp only [Actuators.own, get?_switch]
  split
  · cases p.actuators.get? id with
    | none => rfl
    | some s =>
      by_cases hs : s.controller = controller
      · simp [Option.filter, hs, ActuatorSlot.obey_device]
      · simp [Option.filter, hs]
  · rfl

theorem switch_answer_own (p : Plant δ) (controller id : SlotId) (on : Bool) :
    (p.switch controller id on).1 =
      (p.actuators.own controller id).any fun d => (Actuator.obey d on).1 := by
  rw [switch_answer, Actuators.own]
  cases p.actuators.get? id with
  | none => rfl
  | some s => cases hs : s.controller == controller <;>
      simp [Option.filter, hs, ActuatorSlot.obey_device]

/-- A command is answered and followed alike wherever its controller owns the same. -/
theorem switch_congr {controller : SlotId} {p q : Plant δ}
    (h : Actuators.SameOwn controller p.actuators q.actuators) (id : SlotId) (on : Bool) :
    (q.switch controller id on).1 = (p.switch controller id on).1 ∧
      Actuators.SameOwn controller (p.switch controller id on).2.actuators
        (q.switch controller id on).2.actuators := by
  refine ⟨?_, fun j => ?_⟩
  · rw [switch_answer_own, switch_answer_own, h id]
  · rw [own_switch, own_switch, h id, h j]

/-- So is a command to the whole group. -/
theorem switchAll_congr {controller : SlotId} {p q : Plant δ}
    (h : Actuators.SameOwn controller p.actuators q.actuators) (on : Bool) :
    (q.switchAll controller on).1 = (p.switchAll controller on).1 ∧
      Actuators.SameOwn controller (p.switchAll controller on).2.actuators
        (q.switchAll controller on).2.actuators := by
  rw [switchAll, switchAll, h.assignedIds]
  -- one command after the other, with equal counts on both sides
  suffices ∀ (ids : List SlotId) (n : Nat) (p q : Plant δ),
      Actuators.SameOwn controller p.actuators q.actuators →
      (ids.foldl (switchStep controller on) (n, q)).1 =
          (ids.foldl (switchStep controller on) (n, p)).1 ∧
        Actuators.SameOwn controller (ids.foldl (switchStep controller on) (n, p)).2.actuators
          (ids.foldl (switchStep controller on) (n, q)).2.actuators from
    this _ 0 p q h
  intro ids
  induction ids with
  | nil => exact fun n p q h => ⟨rfl, h⟩
  | cons id rest ih =>
    intro n p q h
    obtain ⟨hanswer, hstate⟩ := switch_congr h id on
    simp only [List.foldl_cons, switchStep, hanswer]
    exact ih _ _ _ hstate

end Plant

/-! ## Programs that ask nothing -/

namespace Command

variable {α β : Type}

/-- The program does not ask for the state of any actuator.  All that it asks and commands concerns
its own. -/
def Discreet : Command α → Prop
  | .done _ => True
  | .switchThen _ _ next => ∀ ok, (next ok).Discreet
  | .switchAllThen _ next => ∀ n, (next n).Discreet
  | .ownsThen _ next => ∀ b, (next b).Discreet
  | .isOnThen _ _ => False
  | .assignedThen next => ∀ ids, (next ids).Discreet
  | .noteThen _ next => next.Discreet

theorem discreet_pure (a : α) : (pure a : Command α).Discreet := trivial

theorem discreet_switch (id : SlotId) (on : Bool) : (Command.switch id on).Discreet :=
  fun _ => trivial

theorem discreet_switchAll (on : Bool) : (Command.switchAll on).Discreet := fun _ => trivial

theorem discreet_owns (id : SlotId) : (Command.owns id).Discreet := fun _ => trivial

theorem discreet_note (n : Notice) : (Command.note n).Discreet := trivial

theorem Discreet.bind {c : Command α} (hc : c.Discreet) {f : α → Command β}
    (hf : ∀ a, (f a).Discreet) : (c >>= f).Discreet := by
  change (Command.bind c f).Discreet
  induction c with
  | done a => exact hf a
  | switchThen id on next ih => exact fun ok => ih ok (hc ok)
  | switchAllThen on next ih => exact fun n => ih n (hc n)
  | ownsThen id next ih => exact fun b => ih b (hc b)
  | isOnThen id next ih => exact hc.elim
  | assignedThen next ih => exact fun ids => ih ids (hc ids)
  | noteThen n next ih => exact ih hc

theorem discreet_of_map {f : α → β} {c : Command α} (h : (f <$> c).Discreet) : c.Discreet := by
  rw [← bind_pure_comp] at h
  change (Command.bind c _).Discreet at h
  induction c with
  | done a => trivial
  | switchThen id on next ih => exact fun ok => ih ok (h ok)
  | switchAllThen on next ih => exact fun n => ih n (h n)
  | ownsThen id next ih => exact fun b => ih b (h b)
  | isOnThen id next ih => exact h.elim
  | assignedThen next ih => exact fun ids => ih ids (h ids)
  | noteThen n next ih => exact ih h

theorem discreet_listMapM {f : α → Command β} (hf : ∀ a, (f a).Discreet) :
    ∀ l : List α, (l.mapM f).Discreet
  | [] => by
    rw [List.mapM_nil]
    exact discreet_pure _
  | a :: l => by
    rw [List.mapM_cons]
    exact (hf a).bind fun b => (discreet_listMapM hf l).bind fun bs => discreet_pure _

theorem discreet_mapM {n : Nat} {f : α → Command β} (hf : ∀ a, (f a).Discreet) (v : Vector α n) :
    (v.mapM f).Discreet := by
  refine discreet_of_map (f := Vector.toArray) ?_
  rw [Vector.toArray_mapM, Array.mapM_eq_mapM_toList, ← bind_pure_comp]
  exact (discreet_listMapM hf _).bind fun bs => discreet_pure _

variable {δ : Type} [Actuator δ]

/-- **A discreet program does not notice the rest of the plant.**  Where its controller owns the
same it ends with the same value, and its controller owns the same afterwards. -/
theorem perform_congr {controller : SlotId} {program : Command α} (hdiscreet : program.Discreet)
    {p q : Plant δ} (h : Actuators.SameOwn controller p.actuators q.actuators) :
    (program.perform controller q).1 = (program.perform controller p).1 ∧
      Actuators.SameOwn controller (program.perform controller p).2.actuators
        (program.perform controller q).2.actuators := by
  induction program generalizing p q with
  | done a => exact ⟨rfl, h⟩
  | switchThen id on next ih =>
    obtain ⟨hanswer, hstate⟩ := Plant.switch_congr h id on
    simp only [perform, hanswer]
    exact ih _ (hdiscreet _) hstate
  | switchAllThen on next ih =>
    obtain ⟨hanswer, hstate⟩ := Plant.switchAll_congr h on
    simp only [perform, hanswer]
    exact ih _ (hdiscreet _) hstate
  | ownsThen id next ih =>
    simp only [perform, Plant.owns_eq_own, h id]
    exact ih _ (hdiscreet _) h
  | isOnThen id next ih => exact hdiscreet.elim
  | assignedThen next ih =>
    simp only [perform, h.assignedIds]
    exact ih _ (hdiscreet _) h
  | noteThen n next ih =>
    simp only [perform]
    exact ih hdiscreet h

end Command

/-! ## The standard rules -/

theorem Thermostat.discreet_drive (id : SlotId) (available on : Bool) :
    (drive id available on).Discreet := by
  rw [drive]
  split
  · exact Command.discreet_switch id on
  · exact Command.discreet_pure _

theorem Thermostat.discreet_apply (r : Thermostat) (canHeat canCool : Bool) :
    (r.apply canHeat canCool).Discreet := by
  rw [apply]
  split <;>
    exact (discreet_drive _ _ _).bind fun _ => (discreet_drive _ _ _).bind fun _ =>
      Command.discreet_pure _

theorem Thermostat.discreet_run (r : Thermostat) (s : Situation) : (r.run s).Discreet := by
  rw [run]
  split
  · exact Command.discreet_pure _
  · refine (Command.discreet_owns _).bind fun canHeat => ?_
    refine (Command.discreet_owns _).bind fun canCool => ?_
    dsimp only
    split
    · exact (discreet_apply _ _ _).bind fun _ => Command.discreet_pure _
    · exact Command.discreet_pure _

theorem TopUp.discreet_step (r : TopUp) (high : Bool) (now : UInt64) :
    (r.step high now).Discreet := by
  have hgroup : ∀ (on : Bool) (r' : TopUp),
      (do let _ ← Command.switchAll on; pure r' : Command TopUp).Discreet :=
    fun on r' => (Command.discreet_switchAll on).bind fun _ => Command.discreet_pure r'
  rw [step]
  split
  · exact hgroup _ _
  · split
    · exact Command.discreet_pure _
    · split
      · exact hgroup _ _
      · exact Command.discreet_pure _
  · split
    · exact Command.discreet_pure _
    · split
      · exact (Command.discreet_note _).bind fun _ => hgroup _ _
      · exact Command.discreet_pure _
  · split
    · exact Command.discreet_pure _
    · split
      · exact hgroup _ _
      · exact Command.discreet_pure _
  · exact Command.discreet_pure _

theorem TopUp.discreet_run (r : TopUp) (s : Situation) : (r.run s).Discreet := by
  rw [run]
  split
  · exact Command.discreet_pure _
  · split
    · exact Command.discreet_pure _
    · exact (r.discreet_step _ _).bind fun _ => Command.discreet_pure _

theorem Channel.discreet_run (now : TimeOfDay) (channel : Channel) :
    (Channel.run now channel).Discreet := by
  rw [run]
  refine (Command.discreet_owns _).bind fun owned => ?_
  split
  · dsimp only
    split
    · exact (Command.discreet_switch _ _).bind fun _ => Command.discreet_pure _
    · exact Command.discreet_pure _
  · exact Command.discreet_pure _

theorem Schedule.discreet_run (r : Schedule) (s : Situation) : (r.run s).Discreet := by
  rw [run]
  split
  · exact Command.discreet_pure _
  · exact (Command.discreet_mapM (Channel.discreet_run _) _).bind fun _ => Command.discreet_pure _

theorem StandardRule.discreet_run (r : StandardRule) (s : Situation) : (r.run s).Discreet := by
  cases r with
  | thermostat r => exact (r.discreet_run s).bind fun _ => Command.discreet_pure _
  | topUp r => exact (r.discreet_run s).bind fun _ => Command.discreet_pure _
  | schedule r => exact (r.discreet_run s).bind fun _ => Command.discreet_pure _

/-- The standard rules among the rules of an aquarium: each is run as it is run by itself. -/
def StandardRule.Embedding {ρ : Type} [Rule ρ] (e : StandardRule → ρ) : Prop :=
  ∀ (r : StandardRule) (s : Situation),
    Rule.run (e r) s = (fun o => (o.1, e o.2)) <$> Rule.run r s

/-! ## A cycle seen from one controller -/

namespace Aquarium

variable {ρ δ σ : Type} [Rule ρ] [Actuator δ] [Sensor σ]

/-- What a rule in a place is given in a cycle. -/
def situation (a : Aquarium ρ δ σ) (controller : SlotId) (uptime : UInt64)
    (time : Option TimeOfDay) : Situation :=
  ⟨controller, (a.sensors.survey a.readings).2.readings, uptime, time⟩

/-- **A cycle seen from one controller.**  Its program meets a plant in which it still owns what it
owned before the cycle, and no other program touches what it then owns. -/
theorem runCycle_at (a : Aquarium ρ δ σ) (uptime : UInt64) (time : Option TimeOfDay)
    {c : SlotId} {slot : ControllerSlot ρ} (hc : a.controllers.get? c = some slot) :
    ∃ p : Plant δ, Actuators.SameOwn c a.actuators p.actuators ∧
      (a.runCycle uptime time).state.controllers.get? c = some { slot with
        rule := ((Rule.run slot.rule (a.situation c uptime time)).perform c p).1.2 } ∧
      Actuators.SameOwn c ((Rule.run slot.rule (a.situation c uptime time)).perform c p).2.actuators
        (a.runCycle uptime time).state.actuators := by
  obtain ⟨⟨p, counts⟩, hp, hslot, hlast⟩ := Registry.mapAccum_at
    (R := fun x y : Plant δ × RunCounts => Actuators.SameOwn c x.1.actuators y.1.actuators)
    (fun x => .refl c _) (fun _ _ _ h h' => h.trans h') a.controllers
    (f := runRule (a.sensors.survey a.readings).2.readings uptime time) hc
    (fun j other _ hj x => by
      exact ((Rule.run other.rule _).movedBy_perform j x.1).sameOwn hj.symm)
    (⟨a.actuators, [], (a.sensors.survey a.readings).2.journal⟩, ⟨0, 0, 0⟩)
  exact ⟨p, hp, hslot, hlast⟩

/-! ## Two aquariums -/

/-- Two aquariums agree where one controller is concerned: on the sensors and the readings, and on
what the controller owns. -/
structure AgreeOn (c : SlotId) (a b : Aquarium ρ δ σ) : Prop where
  sensors : Sensors.SameDrivers a.sensors b.sensors
  readings : b.readings = a.readings
  actuators : Actuators.SameOwn c a.actuators b.actuators

/-- The rule in a place. -/
def rule? (a : Aquarium ρ δ σ) (c : SlotId) : Option ρ :=
  (a.controllers.get? c).map ControllerSlot.rule

/-- One cycle keeps the agreement, and the rules stay the same. -/
theorem AgreeOn.runCycle {e : StandardRule → ρ} (he : StandardRule.Embedding e) {c : SlotId}
    {a b : Aquarium ρ δ σ} (h : AgreeOn c a b) {r : StandardRule} (ha : a.rule? c = some (e r))
    (hb : b.rule? c = some (e r)) (uptime : UInt64) (time : Option TimeOfDay) :
    AgreeOn c (a.runCycle uptime time).state (b.runCycle uptime time).state ∧
      ∃ r', (a.runCycle uptime time).state.rule? c = some (e r') ∧
        (b.runCycle uptime time).state.rule? c = some (e r') := by
  obtain ⟨slot, ha, hslot⟩ := Option.map_eq_some_iff.mp ha
  obtain ⟨slot', hb, hslot'⟩ := Option.map_eq_some_iff.mp hb
  obtain ⟨p, hp, hrule, hown⟩ := a.runCycle_at uptime time ha
  obtain ⟨q, hq, hrule', hown'⟩ := b.runCycle_at uptime time hb
  obtain ⟨hreadings, hsensors⟩ := h.sensors.survey a.readings
  have hsituation : b.situation c uptime time = a.situation c uptime time := by
    rw [situation, situation, h.readings, hreadings]
  have hpq : Actuators.SameOwn c p.actuators q.actuators :=
    hp.symm.trans (h.actuators.trans hq)
  obtain ⟨hvalue, hstate⟩ := Command.perform_congr
    (r.discreet_run (a.situation c uptime time)) hpq
  rw [hslot, he, Command.perform_map] at hrule hown
  rw [hslot', hsituation, he, Command.perform_map] at hrule' hown'
  refine ⟨⟨?_, ?_, ?_⟩, ((r.run (a.situation c uptime time)).perform c p).1.2, ?_, ?_⟩
  · simpa [Aquarium.runCycle, h.readings] using hsensors
  · simpa [Aquarium.runCycle, h.readings] using hreadings
  · exact hown.symm.trans (hstate.trans hown')
  · rw [rule?, hrule]
    rfl
  · rw [rule?, hrule', Option.map_some]
    exact congrArg (fun o : RunStatus × StandardRule => some (e o.2)) hvalue

/-- The aquarium after cycles at given times. -/
def runCycles (a : Aquarium ρ δ σ) (rounds : List (UInt64 × Option TimeOfDay)) :
    Aquarium ρ δ σ :=
  rounds.foldl (fun a round => (a.runCycle round.1 round.2).state) a

/-- **Controllers do not interfere.**  If two aquariums agree where a standard rule is concerned,
they agree after any number of cycles, and the rule has come to the same state in both: no matter
what the other rules are and do, and what they own. -/
theorem controllers_do_not_interfere {e : StandardRule → ρ} (he : StandardRule.Embedding e)
    {c : SlotId} {a b : Aquarium ρ δ σ} (h : AgreeOn c a b) {r : StandardRule}
    (ha : a.rule? c = some (e r)) (hb : b.rule? c = some (e r))
    (rounds : List (UInt64 × Option TimeOfDay)) :
    AgreeOn c (a.runCycles rounds) (b.runCycles rounds) ∧
      ∃ r', (a.runCycles rounds).rule? c = some (e r') ∧
        (b.runCycles rounds).rule? c = some (e r') := by
  induction rounds generalizing a b r with
  | nil => exact ⟨h, r, ha, hb⟩
  | cons round rest ih =>
    obtain ⟨h', r', ha', hb'⟩ := h.runCycle he ha hb round.1 round.2
    exact ih h' ha' hb'

/-- A script in place 0 and a thermostat in place 1 with a sensor at 20 °C.  The first relay is the
thermostat's, whoever has the second. -/
def lodging (actions : List ScriptAction) (second : SlotId × Bool) : Aquarium AnyRule Relay Probe :=
  let thermostat : AnyRule := .standard (.thermostat { Thermostat.default with
    heater := .ofNat 0, sensor := .ofNat 0 })
  let bare : Aquarium AnyRule Relay Probe := (((empty.placeController (.fresh "script"
    (.script { Script.default with actions := actions }))).state.placeController
      (.fresh "thermostat" thermostat)).state.placeSensor
        (.fresh "probe" ⟨.ok ⟨0x4034000000000000⟩⟩)).state
  { bare with actuators :=
      (Rig.create (.ofNat 1) thermostat [(.ofNat 1, false), second]).actuators }

/-- With a neighbour that switches everything it can, the thermostat heats in both cycles, as it
does with one that is quiet. -/
theorem noisy_neighbour_does_not_matter :
    let rounds := [(0, none), (1000, none)]
    let noisy := lodging [.switch (.ofNat 0) false, .switchAll true] (.ofNat 0, false)
    let quiet := lodging [] (.unassigned, true)
    (quiet.runCycles rounds).actuators.own (.ofNat 1) (.ofNat 0) = some ⟨true, .none⟩ ∧
    (noisy.runCycles rounds).actuators.own (.ofNat 1) (.ofNat 0) = some ⟨true, .none⟩ := by
  intro rounds noisy quiet
  have hagree : AgreeOn (.ofNat 1) quiet noisy := by
    refine ⟨fun id => rfl, rfl, fun id => ?_⟩
    cases id with
    | unassigned => rfl
    | slot i => revert i; decide
  have hquiet : (quiet.runCycles rounds).actuators.own (.ofNat 1) (.ofNat 0) =
      some ⟨true, .none⟩ := by decide
  obtain ⟨hafter, -⟩ := controllers_do_not_interfere (e := AnyRule.standard) (fun _ _ => rfl)
    hagree rfl rfl rounds
  exact ⟨hquiet, (hafter.actuators (.ofNat 0)).trans hquiet⟩

end Aquarium

end AquariumControl
