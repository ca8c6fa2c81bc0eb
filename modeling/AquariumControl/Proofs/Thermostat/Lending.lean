import AquariumControl.Bench.Kit
import AquariumControl.Proofs.Isolation
import AquariumControl.Proofs.Restart
import AquariumControl.Proofs.Thermostat.Rewiring

/-!
# Outputs that come and go

An actuator may be taken from a thermostat and given back to it.  A thermostat whose other output
is gone drives the one that it has, and notes that its outputs are in order; what became of the
missing one it does not know, neither then nor when it is back.  So the note is to be trusted only
as long as every cycle finds both outputs.

* `Aquarium.turn` and `Aquarium.runCycle_thermostat` — a cycle seen from one thermostat.
* `Thermostat.InStep` — each output is on just in its own state; `Thermostat.inStep_run_iff` — when
  an evaluation with both outputs ends so.
* `Aquarium.History` — cycles, assignments and settings in any order.
* `Aquarium.outputs_in_step_iff` — the outputs are in step after an evaluation if it drove them or
  they were in step before, and always if no cycle has found one of them missing.
-/

set_option autoImplicit false

namespace AquariumControl

namespace Plant

variable {δ : Type} [Actuator δ]

/-- Where a controller owns the same, its outputs are in the same states. -/
theorem isOn_of_sameOwn {c id : SlotId} {p q : Plant δ}
    (h : Actuators.SameOwn c p.actuators q.actuators) (howns : p.owns c id = true) :
    q.isOn id = p.isOn id := by
  have hisOn : ∀ {p : Plant δ} {d : δ}, p.actuators.own c id = some d →
      p.isOn id = Actuator.isOn d := by
    intro p d hd
    obtain ⟨slot, hslot, rfl⟩ := Option.map_eq_some_iff.mp hd
    rw [isOn, (Option.filter_eq_some_iff.mp hslot).1]
    rfl
  rw [owns_eq_own] at howns
  obtain ⟨d, hd⟩ := Option.isSome_iff_exists.mp howns
  rw [hisOn hd, hisOn ((h id).trans hd)]

end Plant

/-! ## Outputs in step with the state -/

namespace Thermostat

variable {δ : Type} [Actuator δ] {c : SlotId} {r : Thermostat} {p : Plant δ}

/-- Each output is on just in its own state. -/
def InStep (r : Thermostat) (p : Plant δ) : Prop :=
  (p.isOn r.heater = true ↔ r.state = .heating) ∧ (p.isOn r.cooler = true ↔ r.state = .cooling)

theorem Tracks.inStep (h : Tracks r p) (hsynced : r.synced = true) : r.InStep p := by
  obtain ⟨hheater, hcooler⟩ := h hsynced
  rw [InStep, hheater, hcooler]
  exact ⟨decide_eq_true_iff, decide_eq_true_iff⟩

/-- Two different outputs, both there. -/
structure Equipped (c : SlotId) (r : Thermostat) (p : Plant δ) : Prop where
  ne : r.heater ≠ r.cooler
  heater : p.owns c r.heater = true
  cooler : p.owns c r.cooler = true

theorem Equipped.wired (h : Equipped c r p) (hp : p.actuators.Working) :
    Wired c r.heater r.cooler p :=
  ⟨h.ne, (hp.dependable h.heater).reliable, (hp.dependable h.cooler).reliable⟩

/-- **When an evaluation ends in step.**  If it changed anything it drove both outputs; if it did
not, they are as they were. -/
theorem inStep_run_iff (hp : p.actuators.Working) (h : Equipped c r p) {s : Situation}
    (hran : ((r.run s).perform c p).1.1 = .ran) :
    ((r.run s).perform c p).1.2.InStep ((r.run s).perform c p).2 ↔
      ((r.run s).perform c p).1.2 ≠ r ∨ r.InStep p := by
  have hsynced := synced_of_dependable h.ne (hp.dependable h.heater) (hp.dependable h.cooler) hran
  rcases run_cases (h.wired hp) s with ⟨-, hrun, -⟩ | ⟨t, -, -, -, hrun, -⟩ |
      ⟨t, r', -, rfl, hdue, hrun, -⟩
  · rw [hrun] at hran
    cases hran
  · rw [hrun]
    exact (or_iff_right fun hne => hne rfl).symm
  · have htracks := tracks_secondCommand (r := { r with state := r.next t true true }) (h.wired hp)
    rw [hrun] at hsynced ⊢
    -- it came out changed: in its state, or in that it has its outputs in order now
    refine iff_of_true (htracks.inStep hsynced) (.inl fun hsame => ?_)
    rcases hdue with hstate | hstale
    · have hstay := congrArg state hsame
      exact hstate hstay
    · have hstay := congrArg synced hsame
      rw [hsynced, hstale] at hstay
      cases hstay

end Thermostat

namespace Aquarium

variable {ρ δ σ : Type}

/-- What a cycle finds there for the rules to act on. -/
def plant (a : Aquarium ρ δ σ) : Plant δ :=
  ⟨a.actuators, [], []⟩

/-! ## Assignments -/

/-- Assigns an actuator; a request that is refused changes nothing. -/
def reassign (a : Aquarium ρ δ σ) (actuator controller : SlotId) : Aquarium ρ δ σ :=
  match a.assignActuator actuator controller with
  | .ok a' => a'
  | .error _ => a

/-- To assign an actuator touches neither rules nor drivers. -/
theorem reassign_cases (a : Aquarium ρ δ σ) (actuator controller : SlotId) :
    a.reassign actuator controller = a ∨ a.reassign actuator controller = { a with
      actuators := a.actuators.modify actuator fun s => { s with controller := controller } } := by
  rw [reassign, assignActuator]
  split
  · next hok =>
    split at hok
    · cases hok
    · split at hok
      · exact .inr (Except.ok.inj hok).symm
      · cases hok
  · exact .inl rfl

theorem rule?_reassign (a : Aquarium ρ δ σ) (actuator controller c : SlotId) :
    (a.reassign actuator controller).rule? c = a.rule? c := by
  rcases a.reassign_cases actuator controller with h | h <;> rw [h]
  rfl

/-- The driver in a place is the same as before. -/
theorem device_reassign (a : Aquarium ρ δ σ) (actuator controller id : SlotId) :
    ((a.reassign actuator controller).actuators.get? id).map ActuatorSlot.device =
      (a.actuators.get? id).map ActuatorSlot.device := by
  rcases a.reassign_cases actuator controller with h | h <;> rw [h]
  rw [Registry.get?_modify]
  split
  · next hid => rw [hid, Option.map_map]; rfl
  · rfl

variable [Actuator δ]

theorem working_reassign {a : Aquarium ρ δ σ} (h : a.actuators.Working)
    (actuator controller : SlotId) : (a.reassign actuator controller).actuators.Working := by
  intro id slot hslot
  have hdevice := a.device_reassign actuator controller id
  rw [hslot, Option.map_some] at hdevice
  obtain ⟨old, hold, hsame⟩ := Option.map_eq_some_iff.mp hdevice.symm
  exact hsame ▸ h id old hold

theorem isOn_reassign (a : Aquarium ρ δ σ) (actuator controller id : SlotId) :
    (a.reassign actuator controller).plant.isOn id = a.plant.isOn id := by
  have hisOn : ∀ a : Aquarium ρ δ σ, a.plant.isOn id =
      ((a.actuators.get? id).map ActuatorSlot.device).any Actuator.isOn := by
    intro a
    rw [Option.any_map]
    rfl
  rw [hisOn, hisOn, device_reassign]

/-! ## A cycle seen from a thermostat -/

variable [Rule ρ] [Sensor σ]

/-- The run of a thermostat in a cycle, as if nobody else acted in it. -/
def turn (a : Aquarium ρ δ σ) (c : SlotId) (r : Thermostat) (uptime : UInt64)
    (time : Option TimeOfDay) : (RunStatus × Thermostat) × Plant δ :=
  (r.run (a.situation c uptime time)).perform c a.plant

/-- **A cycle is the turn of the thermostat**, as far as its outputs are concerned. -/
theorem runCycle_thermostat {e : StandardRule → ρ} (he : StandardRule.Embedding e)
    {a : Aquarium ρ δ σ} {c : SlotId} {r : Thermostat}
    (hrule : a.rule? c = some (e (.thermostat r))) (uptime : UInt64) (time : Option TimeOfDay) :
    (a.runCycle uptime time).state.rule? c = some (e (.thermostat (a.turn c r uptime time).1.2)) ∧
      Actuators.SameOwn c (a.turn c r uptime time).2.actuators
        (a.runCycle uptime time).state.actuators := by
  obtain ⟨slot, hslot, hrule⟩ := Option.map_eq_some_iff.mp hrule
  obtain ⟨p, hp, hafter, hown⟩ := a.runCycle_at uptime time hslot
  -- when its turn comes it still owns what it owned at the start
  obtain ⟨hvalue, hstate⟩ := Command.perform_congr (p := a.plant) (q := p)
    (r.discreet_run (a.situation c uptime time)) hp
  rw [hrule, he, Command.perform_map] at hafter hown
  change (a.runCycle uptime time).state.controllers.get? c = some { slot with
    rule := e (((StandardRule.thermostat r).run _).perform c p).1.2 } at hafter
  change Actuators.SameOwn c (((StandardRule.thermostat r).run _).perform c p).2.actuators _ at hown
  rw [StandardRule.perform_thermostat, hvalue] at hafter
  rw [StandardRule.perform_thermostat] at hown
  refine ⟨?_, hstate.trans hown⟩
  rw [rule?, hafter]
  rfl

theorem working_runCycle {a : Aquarium ρ δ σ} (h : a.actuators.Working) (uptime : UInt64)
    (time : Option TimeOfDay) : (a.runCycle uptime time).state.actuators.Working :=
  a.runCycle_induction (P := Actuators.Working) uptime time
    (fun c _ program _ hp => Actuators.Working.perform hp c program) h

/-- The outputs of a thermostat after a cycle are as its turn left them. -/
theorem isOn_runCycle {e : StandardRule → ρ} (he : StandardRule.Embedding e)
    {a : Aquarium ρ δ σ} {c : SlotId} {r : Thermostat}
    (hrule : a.rule? c = some (e (.thermostat r))) (uptime : UInt64) (time : Option TimeOfDay)
    {id : SlotId} (hid : a.plant.owns c id = true) :
    (a.runCycle uptime time).state.plant.isOn id = (a.turn c r uptime time).2.isOn id := by
  refine Plant.isOn_of_sameOwn (runCycle_thermostat he hrule uptime time).2 ?_
  exact ((Command.movedBy_perform c _ a.plant).owns c id).trans hid

/-! ## Histories -/

/-- **The histories of a thermostat in place `c`**, from any one on that claims nothing about its
outputs, in an aquarium whose drivers all work: cycles, each of which finds what it should, any
actuators assigned to anyone, and settings of the thermostat.  Sensors, and the rules in other
places, may change at any time. -/
inductive History (e : StandardRule → ρ) (c : SlotId) (finds : Thermostat → Plant δ → Prop) :
    Thermostat → Aquarium ρ δ σ → Prop
  | start {r : Thermostat} {a : Aquarium ρ δ σ} (hrule : a.rule? c = some (e (.thermostat r)))
      (hworks : a.actuators.Working) (hsynced : r.synced = false) : History e c finds r a
  | cycle {r : Thermostat} {a : Aquarium ρ δ σ} (uptime : UInt64) (time : Option TimeOfDay)
      (h : History e c finds r a) (hfinds : finds r a.plant) :
      History e c finds (a.turn c r uptime time).1.2 (a.runCycle uptime time).state
  | assign {r : Thermostat} {a : Aquarium ρ δ σ} (actuator controller : SlotId)
      (h : History e c finds r a) : History e c finds r (a.reassign actuator controller)
  | set {r : Thermostat} {a a' : Aquarium ρ δ σ} (x : Thermostat.Setting)
      (h : History e c finds r a) (hrule : a'.rule? c = some (e (.thermostat (r.set x))))
      (hactuators : a'.actuators = a.actuators) : History e c finds (r.set x) a'
  | elsewhere {r : Thermostat} {a a' : Aquarium ρ δ σ} (h : History e c finds r a)
      (hrule : a'.rule? c = a.rule? c) (hactuators : a'.actuators = a.actuators) :
      History e c finds r a'

namespace History

variable {e : StandardRule → ρ} {c : SlotId} {finds : Thermostat → Plant δ → Prop}
  {r : Thermostat} {a : Aquarium ρ δ σ}

/-- Every history leads to an aquarium with this thermostat in its place. -/
theorem rule (he : StandardRule.Embedding e) (h : History e c finds r a) :
    a.rule? c = some (e (.thermostat r)) := by
  induction h with
  | start hrule _ _ => exact hrule
  | cycle uptime time _ _ ih => exact (runCycle_thermostat he ih uptime time).1
  | assign actuator controller _ ih => exact (rule?_reassign _ _ _ _).trans ih
  | set x _ hrule _ _ => exact hrule
  | elsewhere _ hrule _ ih => exact hrule.trans ih

theorem working (h : History e c finds r a) : a.actuators.Working := by
  induction h with
  | start _ hworks _ => exact hworks
  | cycle uptime time _ _ ih => exact working_runCycle ih uptime time
  | assign actuator controller _ ih => exact working_reassign ih actuator controller
  | set x _ _ hactuators ih => exact hactuators ▸ ih
  | elsewhere _ _ hactuators ih => exact hactuators ▸ ih

/-- **The invariant**, if every cycle finds both outputs: what the thermostat believes of them is
so. -/
theorem tracks (he : StandardRule.Embedding e) (h : History e c (Thermostat.Equipped c) r a) :
    r.Tracks a.plant := by
  induction h with
  | start _ _ hsynced =>
    intro h
    rw [hsynced] at h
    cases h
  | @cycle r a uptime time h hequipped ih =>
    have hw := hequipped.wired h.working
    obtain ⟨hheater, hcooler⟩ := Thermostat.run_outputs hw (a.situation c uptime time)
    intro hsynced
    have htracks := Thermostat.tracks_run hw ih (a.situation c uptime time) hsynced
    rw [turn, hheater, hcooler, isOn_runCycle he (h.rule he) uptime time hequipped.heater,
      isOn_runCycle he (h.rule he) uptime time hequipped.cooler]
    rwa [hheater, hcooler] at htracks
  | assign actuator controller _ ih =>
    intro hsynced
    rw [isOn_reassign, isOn_reassign]
    exact ih hsynced
  | @set r a a' x _ _ hactuators ih =>
    have hplant : a'.plant = a.plant := congrArg (Plant.mk · [] []) hactuators
    exact hplant ▸ ih.set x
  | @elsewhere r a a' _ _ hactuators ih =>
    have hplant : a'.plant = a.plant := congrArg (Plant.mk · [] []) hactuators
    exact hplant ▸ ih

end History

/-- **When the outputs are in step.**  Take a cycle that evaluates a thermostat and finds both of
its outputs there.  Afterwards each is on just in its own state, if the thermostat came out changed
or its outputs were in step before; if neither, they are not.  So they always are in step when none
of the cycles before found an output missing, however they were assigned in between. -/
theorem outputs_in_step_iff {e : StandardRule → ρ} (he : StandardRule.Embedding e)
    {a : Aquarium ρ δ σ} {c : SlotId} {r : Thermostat}
    (hrule : a.rule? c = some (e (.thermostat r))) (hworks : a.actuators.Working)
    (hequipped : Thermostat.Equipped c r a.plant) (uptime : UInt64) (time : Option TimeOfDay) :
    let r' := (a.turn c r uptime time).1.2
    let a' := (a.runCycle uptime time).state
    a'.rule? c = some (e (.thermostat r')) ∧
    ((a.turn c r uptime time).1.1 = .ran ↔
      ((a.situation c uptime time).readings.get? r.sensor).isSome) ∧
    ((a.turn c r uptime time).1.1 = .ran →
      (r'.InStep a'.plant ↔ r' ≠ r ∨ r.InStep a.plant) ∧
      (History e c (Thermostat.Equipped c) r a → r'.InStep a'.plant)) := by
  intro r' a'
  have hw := hequipped.wired hworks
  obtain ⟨hheater, hcooler⟩ := Thermostat.run_outputs hw (a.situation c uptime time)
  refine ⟨(runCycle_thermostat he hrule uptime time).1, ?_, fun hran => ⟨?_, fun hist => ?_⟩⟩
  · rcases Thermostat.run_cases hw (a.situation c uptime time) with
        ⟨hr, h, -⟩ | ⟨t, hr, -, -, h, -⟩ | ⟨t, r', hr, -, -, h, -⟩ <;>
      simp [turn, h, hr]
  · have hsame : r'.InStep a'.plant ↔ r'.InStep (a.turn c r uptime time).2 := by
      rw [Thermostat.InStep, Thermostat.InStep, show r'.heater = r.heater from hheater,
        show r'.cooler = r.cooler from hcooler,
        isOn_runCycle he hrule uptime time hequipped.heater,
        isOn_runCycle he hrule uptime time hequipped.cooler]
    exact hsame.trans (Thermostat.inStep_run_iff hworks hequipped hran)
  · have htracks := (hist.cycle uptime time hequipped).tracks he
    exact htracks.inStep (Thermostat.synced_of_dependable hequipped.ne
      (hworks.dependable hequipped.heater) (hworks.dependable hequipped.cooler) hran)

/-- A thermostat in place 0 with a probe at 20 °C and two relays of its own, both off. -/
def tempered : Aquarium AnyRule Relay Probe :=
  let bare : Aquarium AnyRule Relay Probe := ((empty.placeController
    (.fresh "thermostat" (.standard (.thermostat Thermostat.fitted)))).state.placeSensor
      (.fresh "probe" ⟨.ok ⟨0x4034000000000000⟩⟩)).state
  { bare with actuators := (Thermostat.bench false .none).actuators }

/-- The probe comes to 30 °C. -/
def warmed (a : Aquarium AnyRule Relay Probe) : Aquarium AnyRule Relay Probe :=
  { a with sensors := a.sensors.modify (.ofNat 0) fun s =>
      { s with device := ⟨.ok ⟨0x403E000000000000⟩⟩ } }

theorem working_tempered : tempered.actuators.Working :=
  Actuators.working_of_failure_none (by decide)

/-- After a first cycle, in which the heater went on, the heater is taken away. -/
def lent : Aquarium AnyRule Relay Probe :=
  (tempered.runCycle 0 none).state.reassign (.ofNat 0) .unassigned

/-- The thermostat after the first cycle. -/
def heatingThermostat : Thermostat :=
  (tempered.turn (.ofNat 0) Thermostat.fitted 0 none).1.2

theorem history_lent {finds : Thermostat → Plant Relay → Prop}
    (hfinds : finds Thermostat.fitted tempered.plant) :
    History AnyRule.standard (.ofNat 0) finds heatingThermostat lent :=
  .assign _ _ (.cycle 0 none (.start rfl working_tempered rfl) hfinds)

/-- **A heater that was lent and came back heats beside the cooler.**  The thermostat heats and
loses its heater.  At 30 °C it goes over to cooling with the one output that it has.  When it gets
its heater back, which nobody has switched off, it finds nothing to do: both outputs are on. -/
theorem returned_heater_runs_beside_cooler :
    let a := (lent.warmed.runCycle 1000 none).state.reassign (.ofNat 0) (.ofNat 0)
    ∃ r, History AnyRule.standard (.ofNat 0) (fun _ _ => True) r a ∧
      Thermostat.Equipped (.ofNat 0) r a.plant ∧
      (a.turn (.ofNat 0) r 2000 none).1.1 = .ran ∧
      (a.turn (.ofNat 0) r 2000 none).1.2.state = .cooling ∧
      (a.runCycle 2000 none).state.plant.isOn r.heater = true ∧
      (a.runCycle 2000 none).state.plant.isOn r.cooler = true := by
  intro a
  have hist : History AnyRule.standard (.ofNat 0) (fun _ _ => True)
      (lent.warmed.turn (.ofNat 0) heatingThermostat 1000 none).1.2 a :=
    .assign _ _ (.cycle 1000 none (.elsewhere (history_lent trivial) rfl rfl) trivial)
  exact ⟨_, hist, ⟨by decide, by decide, by decide⟩, by decide, by decide, by decide, by decide⟩

/-- Had it got its heater back before that cycle, it would have switched it off. -/
theorem heater_back_in_time_goes_off :
    let a := (lent.reassign (.ofNat 0) (.ofNat 0)).warmed
    History AnyRule.standard (.ofNat 0) (Thermostat.Equipped (.ofNat 0)) heatingThermostat a ∧
      Thermostat.Equipped (.ofNat 0) heatingThermostat a.plant ∧
      a.plant.isOn (.ofNat 0) = true ∧
      (a.runCycle 1000 none).state.plant.isOn (.ofNat 0) = false ∧
      (a.runCycle 1000 none).state.plant.isOn (.ofNat 1) = true := by
  intro a
  have hist : History AnyRule.standard (.ofNat 0) (Thermostat.Equipped (.ofNat 0))
      heatingThermostat a :=
    .elsewhere (.assign _ _ (history_lent ⟨by decide, by decide, by decide⟩)) rfl rfl
  have hequipped : Thermostat.Equipped (.ofNat 0) heatingThermostat a.plant :=
    ⟨by decide, by decide, by decide⟩
  have he : StandardRule.Embedding AnyRule.standard := fun _ _ => rfl
  obtain ⟨-, -, hstep⟩ :=
    outputs_in_step_iff he (hist.rule he) hist.working hequipped 1000 none
  obtain ⟨hheater, hcooler⟩ := (hstep (by decide)).2 hist
  refine ⟨hist, hequipped, by decide, ?_, hcooler.mpr (by decide)⟩
  exact Bool.eq_false_iff.mpr fun hon => absurd (hheater.mp hon) (by decide)

end Aquarium

end AquariumControl
