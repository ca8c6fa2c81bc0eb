import AquariumControl.Bench.UplinkMode
import AquariumControl.Proofs.Delivery
import AquariumControl.Proofs.Isolation
import AquariumControl.Proofs.Lookups

/-!
# The log of switches

A cycle reports which outputs were switched.  The log is written command by command, far from the
outputs themselves, and only as long as there is room in it.  Here a cycle is taken apart into the
single commands to single actuators, and the log is compared with what an observer sees who looks
at all outputs before and after each of them.

* `Actuator.Honest` — the one thing that is asked of the drivers.
* `Actuators.changes` — what an observer finds changed between two looks at the actuators.
* `Plant.switch_cases` — all that one command can do.
* `Stroke`, `Aquarium.strokes` — the commands of a cycle, each with the actuators before and after.
* `Plant.Course` — the way from one plant to another, stroke by stroke; `Aquarium.course_runCycle`.
* `Aquarium.switch_log_is_faithful` — the log, the outputs and the events of a cycle agree.
-/

set_option autoImplicit false

namespace AquariumControl

/-! ## Drivers -/

/-- A driver whose answers are true, and stay so whatever it is told. -/
def Actuator.Honest {δ : Type} [Actuator δ] (d : δ) : Prop :=
  ∀ commands : List Bool,
    Actuator.Faithful (commands.foldl (fun d on => (Actuator.drive d on).2) d)

theorem Actuator.honest_of_faithful {δ : Type} [Actuator δ] (h : ∀ d : δ, Actuator.Faithful d)
    (d : δ) : Actuator.Honest d :=
  fun _ => h _

/-- Switching an actuator with a faithful driver changes the output, or leaves it as it is: because
it is where it should be already, or because the driver fails. -/
theorem ActuatorSlot.switch_cases {δ : Type} [Actuator δ] {s : ActuatorSlot δ}
    (h : Actuator.Faithful s.device) (on : Bool) :
    ((s.switch on).answer = .ok true ∧ s.isOn = !on ∧ (s.switch on).state.isOn = on) ∨
    ((s.switch on).answer = .ok false ∧ s.isOn = on ∧ (s.switch on).state.isOn = s.isOn) ∨
    ∃ e, (s.switch on).answer = .error e ∧ (s.switch on).state.isOn = s.isOn := by
  have hstate := isOn_switch h on
  by_cases hon : s.isOn = on
  · have hanswer : (s.switch on).answer = .ok false := by rw [switch, if_pos hon]
    rw [hanswer] at hstate
    exact .inr (.inl ⟨hanswer, hon, hstate.trans hon.symm⟩)
  · have hanswer : (s.switch on).answer = (Actuator.drive s.device on).1.map fun _ => true := by
      rw [switch, if_neg hon]
      rcases Actuator.drive s.device on with ⟨_ | _, d⟩ <;> rfl
    rcases hdriven : (Actuator.drive s.device on).1 with e | _
    · rw [hdriven] at hanswer
      rw [hanswer] at hstate
      exact .inr (.inr ⟨e, hanswer, hstate⟩)
    · rw [hdriven] at hanswer
      rw [hanswer] at hstate
      exact .inl ⟨hanswer, Bool.eq_not_of_ne hon, hstate⟩

/-! ## Looking at the outputs -/

/-- Enters a switch into a picture of the outputs. -/
def Switch.apply (s : Switch) (levels : SlotId → Option Bool) : SlotId → Option Bool :=
  fun id => if id = s.actuator then some s.on else levels id

/-- Enters the switches of a log one after the other. -/
def replay (log : List Switch) (levels : SlotId → Option Bool) : SlotId → Option Bool :=
  log.foldl (fun levels s => s.apply levels) levels

namespace Actuators

variable {δ : Type} [Actuator δ]

/-- The state of every output. -/
def levels (actuators : Actuators δ) (id : SlotId) : Option Bool :=
  (actuators.get? id).map ActuatorSlot.isOn

/-- The outputs that are in another state than before, in ascending order of their places, each
with the controller that its actuator names and the new state. -/
def changes (before after : Actuators δ) : List Switch :=
  (allPlaces.filter fun id => before.levels id != after.levels id).filterMap fun id =>
    (after.get? id).map fun slot => ⟨id, slot.controller, slot.isOn⟩

theorem changes_of_same {before after : Actuators δ} (h : after.levels = before.levels) :
    before.changes after = [] := by
  rw [changes, h, List.filter_eq_nil_iff.mpr, List.filterMap_nil]
  intro id _
  simp

theorem changes_of_apply {before after : Actuators δ} {s : Switch}
    (h : after.levels = s.apply before.levels) (hbefore : before.levels s.actuator = some (!s.on))
    (hnames : after.reference s.actuator = some s.controller) : before.changes after = [s] := by
  obtain ⟨slot, hslot, hcontroller⟩ := Option.map_eq_some_iff.mp hnames
  have hon : slot.isOn = s.on := by
    have hafter := congrFun h s.actuator
    rw [levels, hslot, Switch.apply, if_pos rfl] at hafter
    exact Option.some.inj hafter
  have hplaces : (allPlaces.filter fun id => before.levels id != after.levels id) =
      [s.actuator] := by
    have honly : ∀ id ∈ allPlaces,
        (before.levels id != after.levels id) = (id == s.actuator) := by
      intro id _
      rw [h, Switch.apply]
      by_cases hid : id = s.actuator
      · rw [if_pos hid, hid, hbefore]
        cases s.on <;> simp
      · rw [if_neg hid, bne_self_eq_false, beq_eq_false_iff_ne.mpr hid]
    rw [List.filter_congr honly, List.filter_beq, nodup_allPlaces.count,
      if_pos (mem_allPlaces hslot)]
    rfl
  rw [changes, hplaces, List.filterMap_cons, hslot, Option.map_some, hcontroller, hon]
  rfl

theorem mem_changes {before after : Actuators δ} {s : Switch} (h : s ∈ before.changes after) :
    after.levels s.actuator = some s.on ∧ after.reference s.actuator = some s.controller := by
  obtain ⟨id, -, hid⟩ := List.mem_filterMap.mp h
  obtain ⟨slot, hslot, rfl⟩ := Option.map_eq_some_iff.mp hid
  rw [levels, reference, hslot]
  exact ⟨rfl, rfl⟩

/-- All drivers are honest. -/
def Honest (actuators : Actuators δ) : Prop :=
  ∀ id slot, actuators.get? id = some slot → Actuator.Honest slot.device

end Actuators

/-! ## One command -/

namespace Plant

variable {δ : Type} [Actuator δ]

theorem levels_switch (p : Plant δ) (controller id : SlotId) (on : Bool) (j : SlotId) :
    (p.switch controller id on).2.actuators.levels j =
      if j = id then
        (p.actuators.get? id).map fun s =>
          if s.controller = controller then (s.switch on).state.isOn else s.isOn
      else p.actuators.levels j := by
  rw [Actuators.levels, get?_switch]
  split
  · rw [Option.map_map]
    refine congrArg (Option.map · _) (funext fun s => ?_)
    rw [Function.comp_apply]
    split <;> rfl
  · rfl

/-- Where switching does not change the output of the commanded actuator, no output changes. -/
theorem levels_switch_of_stays {p : Plant δ} {controller id : SlotId} {on : Bool}
    (h : ∀ s, p.actuators.get? id = some s → s.controller = controller →
      (s.switch on).state.isOn = s.isOn) :
    (p.switch controller id on).2.actuators.levels = p.actuators.levels := by
  funext j
  rw [levels_switch]
  split
  · next hj =>
    rw [hj, Actuators.levels]
    refine Option.map_congr fun s hs => ?_
    split
    · next hc => exact h s hs hc
    · rfl
  · rfl

theorem reference_switch (p : Plant δ) (controller id : SlotId) (on : Bool) :
    (p.switch controller id on).2.actuators.reference = p.actuators.reference := by
  funext j
  have hidentity := congrArg (Option.map fun i => i.2.2)
    ((p.movedBy_switch controller id on).identity j)
  rwa [Option.map_map, Option.map_map] at hidentity

theorem honest_switch {p : Plant δ} (h : p.actuators.Honest) (controller id : SlotId) (on : Bool) :
    (p.switch controller id on).2.actuators.Honest := by
  intro j slot hslot
  rw [get?_switch] at hslot
  split at hslot
  · obtain ⟨s, hs, rfl⟩ := Option.map_eq_some_iff.mp hslot
    split
    · exact ActuatorSlot.device_switch (P := Actuator.Honest)
        (fun _ on hd commands => hd (on :: commands)) (h id s hs) on
    · exact h id s hs
  · exact h j slot hslot

/-- **All that one command can do.**  It was accepted by an output that was not in the commanded
state: then this output is now, and the switch is recorded.  Or no output is in another state than
before, and nothing is recorded. -/
theorem switch_cases {p : Plant δ} (h : p.actuators.Honest) (controller id : SlotId) (on : Bool) :
    ((p.switch controller id on).1 = true ∧ p.actuators.levels id = some (!on) ∧
      p.actuators.reference id = some controller ∧
      (p.switch controller id on).2.actuators.levels =
        Switch.apply ⟨id, controller, on⟩ p.actuators.levels ∧
      (p.switch controller id on).2.switches = record p.switches ⟨id, controller, on⟩) ∨
    (¬ ((p.switch controller id on).1 = true ∧ p.actuators.levels id = some (!on)) ∧
      (p.switch controller id on).2.actuators.levels = p.actuators.levels ∧
      (p.switch controller id on).2.switches = p.switches) := by
  cases hslot : p.actuators.get? id with
  | none =>
    refine .inr ⟨?_, levels_switch_of_stays (by simp [hslot]), ?_⟩ <;> simp [switch, hslot]
  | some slot =>
    have hbefore : p.actuators.levels id = some slot.isOn := by
      rw [Actuators.levels, hslot, Option.map_some]
    by_cases hc : slot.controller = controller
    · rw [hbefore]
      rcases ActuatorSlot.switch_cases (h id slot hslot []) on with
        ⟨hanswer, hwas, his⟩ | ⟨hanswer, hwas, hstays⟩ | ⟨e, hanswer, hstays⟩
      · refine .inl ⟨?_, congrArg some hwas, ?_, funext fun j => ?_, ?_⟩
        · simp [switch, hslot, hc, hanswer]
        · rw [Actuators.reference, hslot, Option.map_some, hc]
        · rw [levels_switch, hslot, Option.map_some, if_pos hc, his]
          rfl
        · simp [switch, hslot, hc, hanswer]
      · refine .inr ⟨?_, levels_switch_of_stays (by simp [hslot, hstays]), ?_⟩
        · rintro ⟨-, hnot⟩
          rw [hwas] at hnot
          cases on <;> cases hnot
        · simp [switch, hslot, hc, hanswer]
      · refine .inr ⟨?_, levels_switch_of_stays (by simp [hslot, hstays]), ?_⟩ <;>
          simp [switch, hslot, hc, hanswer]
    · refine .inr ⟨?_, levels_switch_of_stays (by simp [hslot, hc]), ?_⟩ <;>
        simp [switch, hslot, hc]

end Plant

/-! ## Strokes -/

/-- One command to one actuator: who gave it, what it asked for and whether it was accepted, and
the actuators before and after it. -/
structure Stroke (δ : Type) where
  controller : SlotId
  actuator : SlotId
  on : Bool
  accepted : Bool
  before : Actuators δ
  after : Actuators δ

namespace Stroke

variable {δ : Type} [Actuator δ]

/-- What an observer sees of a stroke. -/
def changes (s : Stroke δ) : List Switch :=
  s.before.changes s.after

/-- The entry that a stroke deserves, if it is one that changes an output. -/
def entry (s : Stroke δ) : List Switch :=
  if s.accepted = true ∧ s.before.levels s.actuator = some (!s.on) then
    [⟨s.actuator, s.controller, s.on⟩]
  else []

end Stroke

/-- Strokes without a gap: the first one begins at these actuators, each of the others where the one
before it ended, and the last one ends at those. -/
inductive Linked {δ : Type} : Actuators δ → List (Stroke δ) → Actuators δ → Prop
  | nil (actuators : Actuators δ) : Linked actuators [] actuators
  | cons {s : Stroke δ} {rest : List (Stroke δ)} {last : Actuators δ}
      (h : Linked s.after rest last) : Linked s.before (s :: rest) last

namespace Plant

variable {δ : Type} [Actuator δ]

/-- One command as a stroke. -/
def stroke (p : Plant δ) (controller id : SlotId) (on : Bool) : Stroke δ :=
  ⟨controller, id, on, (p.switch controller id on).1, p.actuators,
    (p.switch controller id on).2.actuators⟩

/-- A group command, actuator by actuator. -/
def groupStrokes (controller : SlotId) (on : Bool) : List SlotId → Plant δ → List (Stroke δ)
  | [], _ => []
  | id :: rest, p =>
    p.stroke controller id on :: groupStrokes controller on rest (p.switch controller id on).2

/-- The way from one plant to another, with the strokes on it.  Between them there are only lines
in the log. -/
inductive Course : Plant δ → List (Stroke δ) → Plant δ → Prop
  | nil (p : Plant δ) : Course p [] p
  | note {p q : Plant δ} {strokes : List (Stroke δ)} (n : Notice)
      (h : Course { p with journal := p.journal ++ [.notice n] } strokes q) : Course p strokes q
  | switch {p q : Plant δ} {strokes : List (Stroke δ)} (controller id : SlotId) (on : Bool)
      (h : Course (p.switch controller id on).2 strokes q) :
      Course p (p.stroke controller id on :: strokes) q

namespace Course

theorem append {p q r : Plant δ} {early late : List (Stroke δ)} (h : Course p early q)
    (h' : Course q late r) : Course p (early ++ late) r := by
  induction h with
  | nil p => exact h'
  | note n _ ih => exact .note n (ih h')
  | switch controller id on _ ih => exact .switch controller id on (ih h')

theorem linked {p q : Plant δ} {strokes : List (Stroke δ)} (h : Course p strokes q) :
    Linked p.actuators strokes q.actuators := by
  induction h with
  | nil p => exact .nil p.actuators
  | note n _ ih => exact ih
  | @switch p q strokes controller id on _ ih =>
    exact .cons (s := p.stroke controller id on) ih

/-- What every command preserves, holds before every stroke. -/
theorem exists_stroke {I : Actuators δ → Prop}
    (hI : ∀ (p : Plant δ) controller id on, I p.actuators →
      I (p.switch controller id on).2.actuators)
    {p q : Plant δ} {strokes : List (Stroke δ)} (h : Course p strokes q) (hp : I p.actuators) :
    ∀ s ∈ strokes, ∃ r controller id on, s = Plant.stroke r controller id on ∧ I r.actuators := by
  induction h with
  | nil p => exact fun s hs => nomatch hs
  | note n _ ih => exact ih hp
  | @switch p q strokes controller id on _ ih =>
    exact List.forall_mem_cons.mpr
      ⟨⟨p, controller, id, on, rfl, hp⟩, ih (hI p controller id on hp)⟩

end Course

/-- What an observer sees of a command is the entry that it deserves, this is what the command adds
to the log, and entered into the picture of the outputs before the command it gives the one after
it. -/
theorem stroke_effect {p : Plant δ} (h : p.actuators.Honest) (controller id : SlotId) (on : Bool) :
    (p.stroke controller id on).changes = (p.stroke controller id on).entry ∧
      (p.switch controller id on).2.switches =
        (p.stroke controller id on).changes.foldl record p.switches ∧
      replay (p.stroke controller id on).changes p.actuators.levels =
        (p.switch controller id on).2.actuators.levels := by
  rcases switch_cases h controller id on with
    ⟨haccepted, hbefore, hnames, hlevels, hswitches⟩ | ⟨hnot, hlevels, hswitches⟩
  · have hentry : (p.stroke controller id on).entry = [⟨id, controller, on⟩] :=
      if_pos ⟨haccepted, hbefore⟩
    have hchanges : (p.stroke controller id on).changes = [⟨id, controller, on⟩] :=
      Actuators.changes_of_apply hlevels hbefore
        ((congrFun (p.reference_switch controller id on) id).trans hnames)
    rw [hentry, hchanges]
    exact ⟨rfl, hswitches, hlevels.symm⟩
  · have hentry : (p.stroke controller id on).entry = [] := if_neg hnot
    have hchanges : (p.stroke controller id on).changes = [] := Actuators.changes_of_same hlevels
    rw [hentry, hchanges]
    exact ⟨rfl, hswitches, hlevels.symm⟩

namespace Course

/-- What is recorded on the way. -/
theorem switches {p q : Plant δ} {strokes : List (Stroke δ)} (h : Course p strokes q)
    (hp : p.actuators.Honest) :
    q.switches = (strokes.flatMap Stroke.changes).foldl record p.switches := by
  induction h with
  | nil p => rfl
  | note n _ ih => exact ih hp
  | @switch p q strokes controller id on _ ih =>
    rw [List.flatMap_cons, List.foldl_append, ← (stroke_effect hp controller id on).2.1]
    exact ih (honest_switch hp controller id on)

/-- All changes on the way lead from the outputs at the start to those at the end. -/
theorem replay_changes {p q : Plant δ} {strokes : List (Stroke δ)} (h : Course p strokes q)
    (hp : p.actuators.Honest) :
    replay (strokes.flatMap Stroke.changes) p.actuators.levels = q.actuators.levels := by
  induction h with
  | nil p => rfl
  | note n _ ih => exact ih hp
  | @switch p q strokes controller id on _ ih =>
    rw [List.flatMap_cons, replay, List.foldl_append]
    exact (congrArg (replay _) (stroke_effect hp controller id on).2.2).trans
      (ih (honest_switch hp controller id on))

end Course

/-- The log keeps the first 32 entries. -/
theorem foldl_record (entries : List Switch) :
    ∀ {log : List Switch}, log.length ≤ 32 →
      entries.foldl record log = (log ++ entries).take 32 := by
  induction entries with
  | nil =>
    intro log hlog
    rw [List.append_nil, List.take_of_length_le hlog]
    rfl
  | cons s rest ih =>
    intro log hlog
    have hcapacity : switchLogCapacity = 32 := rfl
    rw [List.foldl_cons, record]
    by_cases hroom : log.length < 32
    · have hroom' : (log ++ [s]).length ≤ 32 := by
        rw [List.length_append, List.length_singleton]
        omega
      rw [if_pos (by omega), ih hroom', List.append_assoc]
      rfl
    · have hfull : log.length = 32 := by omega
      rw [if_neg (by omega), ih hlog, ← hfull, List.take_left, List.take_left]

theorem course_groupStrokes (controller : SlotId) (on : Bool) :
    ∀ (ids : List SlotId) (done : Nat × Plant δ),
      Course done.2 (groupStrokes controller on ids done.2)
        (ids.foldl (switchStep controller on) done).2
  | [], done => .nil done.2
  | id :: rest, done =>
    .switch controller id on
      (course_groupStrokes controller on rest (switchStep controller on done id))

end Plant

/-! ## Programs and cycles -/

/-- The strokes of a program that is carried out on a plant. -/
def Command.strokes {α δ : Type} [Actuator δ] (controller : SlotId) :
    Command α → Plant δ → List (Stroke δ)
  | .done _, _ => []
  | .switchThen id on next, p =>
    let (ok, p') := p.switch controller id on
    p.stroke controller id on :: (next ok).strokes controller p'
  | .switchAllThen on next, p =>
    let (count, p') := p.switchAll controller on
    Plant.groupStrokes controller on (p.actuators.assignedIds controller) p ++
      (next count).strokes controller p'
  | .ownsThen id next, p => (next (p.owns controller id)).strokes controller p
  | .isOnThen id next, p =>
    (next ((p.actuators.get? id).map ActuatorSlot.isOn)).strokes controller p
  | .assignedThen next, p => (next (p.actuators.assignedIds controller)).strokes controller p
  | .noteThen n next, p =>
    next.strokes controller { p with journal := p.journal ++ [.notice n] }

theorem Command.course_perform {α δ : Type} [Actuator δ] (controller : SlotId)
    (program : Command α) (p : Plant δ) :
    Plant.Course p (program.strokes controller p) (program.perform controller p).2 := by
  induction program generalizing p with
  | done a => exact .nil p
  | switchThen id on next ih => exact .switch controller id on (ih _ _)
  | switchAllThen on next ih =>
    exact (Plant.course_groupStrokes controller on _ (0, p)).append (ih _ _)
  | ownsThen id next ih => exact ih _ p
  | isOnThen id next ih => exact ih _ p
  | assignedThen next ih => exact ih _ p
  | noteThen n next ih => exact .note n (ih _)

namespace Aquarium

variable {ρ δ σ : Type} [Rule ρ] [Actuator δ] [Sensor σ] (a : Aquarium ρ δ σ) (uptime : UInt64)
  (time : Option TimeOfDay)

/-- The strokes of some rules that are run one after the other. -/
def strokesFrom : List (SlotId × ControllerSlot ρ) → Plant δ → List (Stroke δ)
  | [], _ => []
  | (id, slot) :: rest, p =>
    let program := Rule.run slot.rule (a.situation id uptime time)
    program.strokes id p ++ strokesFrom rest (program.perform id p).2

/-- The strokes of a cycle: all rules are run, in ascending order of their places. -/
def strokes : List (Stroke δ) :=
  a.strokesFrom uptime time (Registry.entries a.controllers)
    ⟨a.actuators, [], (a.sensors.survey a.readings).2.journal⟩

theorem course_strokesFrom (entries : List (SlotId × ControllerSlot ρ)) :
    ∀ acc : Plant δ × RunCounts,
      Plant.Course acc.1 (a.strokesFrom uptime time entries acc.1)
        (entries.foldl (fun acc e =>
          (runRule (a.sensors.survey a.readings).2.readings uptime time acc e.1 e.2).2) acc).1 := by
  induction entries with
  | nil => exact fun acc => .nil acc.1
  | cons e rest ih =>
    intro acc
    exact (Command.course_perform e.1 _ acc.1).append (ih (runRule
      (a.sensors.survey a.readings).2.readings uptime time acc e.1 e.2).2)

/-- **A cycle is a course**, from the actuators as they are with an empty log to the actuators
that it leaves, with the log that it reports. -/
theorem course_runCycle :
    ∃ q : Plant δ,
      Plant.Course ⟨a.actuators, [], (a.sensors.survey a.readings).2.journal⟩
        (a.strokes uptime time) q ∧
      q.actuators = (a.runCycle uptime time).state.actuators ∧
      q.switches = (a.runCycle uptime time).answer.switches := by
  have hcourse := a.course_strokesFrom uptime time (Registry.entries a.controllers)
    (⟨a.actuators, [], (a.sensors.survey a.readings).2.journal⟩, ⟨0, 0, 0⟩)
  rw [← Registry.mapAccum_snd] at hcourse
  exact ⟨_, hcourse, rfl, rfl⟩

end Aquarium

/-! ## Events -/

/-- The event is about the samples that are sent to the uplink. -/
def Event.concernsUplink : Event → Bool
  | .telemetryFlushed _ => true
  | .telemetryFailed _ => true
  | _ => false

theorem Journal.events_map {α : Type} (f : α → Event) (xs : List α) :
    events (xs.map fun x => .event (f x)) = xs.map f := by
  rw [events, List.filterMap_map]
  exact congrFun List.filterMap_eq_map' xs

theorem Journal.Plain.events {j : Journal} (hj : Plain j) : Journal.events j = [] := by
  refine List.filterMap_eq_nil_iff.mpr fun entry hentry => ?_
  obtain ⟨n, rfl⟩ := hj entry hentry
  rfl

namespace Scheduler

theorem events_cycleReport (r : CycleReport) :
    Journal.events (cycleReport r) =
      (r.failures.map fun f => .sensorReadFailed f.1 f.2) ++
        r.switches.map .actuatorSwitched := by
  have hnotice : Journal.events [.notice (.cycleFinished r.counts)] = [] := rfl
  rw [cycleReport, ← List.singleton_append, Journal.events_append, hnotice, List.nil_append,
    Journal.events_append, Journal.events_map, Journal.events_map]

variable {ρ δ σ : Type}

theorem concernsUplink_transmit (s : Scheduler) (a : Aquarium ρ δ σ) (now : UInt64)
    (uplink : Uplink) :
    ∀ e ∈ Journal.events (s.transmit a now uplink).journal, e.concernsUplink = true := by
  rw [transmit]
  split
  · rw [flush]
    split
    · exact List.forall_mem_nil _
    · split
      · exact List.forall_mem_singleton.mpr rfl
      · exact List.forall_mem_singleton.mpr rfl
  · exact List.forall_mem_nil _

variable [Rule ρ] [Actuator δ] [Sensor σ]

/-- **The events of a pass**: none without a cycle, and otherwise the sensors that could not be
read, the switches of the log, and what concerns the uplink. -/
theorem events_step (l : Loop ρ δ σ) (now : UInt64) (time : Option TimeOfDay) (uplink : Uplink) :
    (step l now time uplink).answer = none ∧
        Journal.events (step l now time uplink).journal = [] ∨
      (step l now time uplink).answer = some (l.aquarium.runCycle now time).answer ∧
        ∃ sent, (∀ e ∈ sent, Event.concernsUplink e = true) ∧
          Journal.events (step l now time uplink).journal =
            (l.aquarium.sensors.failing.map fun f => .sensorReadFailed f.1 f.2) ++
              (l.aquarium.runCycle now time).answer.switches.map .actuatorSwitched ++ sent := by
  cases hdue : (poll l.scheduler.mode l.tick).1 with
  | false =>
    rw [step_of_idle hdue]
    exact .inl ⟨rfl, rfl⟩
  | true =>
    rw [step_of_due hdue]
    refine .inr ⟨rfl, _, l.scheduler.concernsUplink_transmit
      (l.aquarium.runCycle now time).state now uplink, ?_⟩
    rw [← Sensors.failures_survey l.aquarium.sensors l.aquarium.readings]
    simp only [act, Journal.events_append, (l.aquarium.plain_runCycle now time).events,
      events_cycleReport, List.nil_append]
    rfl

end Scheduler

/-! ## The log -/

namespace Aquarium

variable {ρ δ σ : Type} [Rule ρ] [Actuator δ] [Sensor σ]

/-- **The log of switches is faithful**, whatever the rules do, if the answers of the drivers are
true.  Between the actuators before the cycle and those after it there is one command after the
other.  What an observer finds changed from one to the next is the entry that the command deserves:
one if it was accepted by an output that was not in the commanded state, with the controller that
the actuator is assigned to and the new state of the output, and otherwise none.  The log has all
these changes in their order, or the first 32 of them.  If there are no more, then entering them
into the picture of the outputs before the cycle gives the one after it.  A pass of the main loop
that runs this cycle announces the sensors that could not be read and then the entries of the log,
each once and in order, and after them only what concerns the uplink. -/
theorem switch_log_is_faithful (a : Aquarium ρ δ σ) (h : a.actuators.Honest) (uptime : UInt64)
    (time : Option TimeOfDay) :
    Linked a.actuators (a.strokes uptime time) (a.runCycle uptime time).state.actuators ∧
    (∀ s ∈ a.strokes uptime time, s.changes = s.entry ∧
      ∀ e ∈ s.changes, s.after.levels e.actuator = some e.on ∧
        a.actuators.reference e.actuator = some e.controller) ∧
    (a.runCycle uptime time).answer.switches =
      ((a.strokes uptime time).flatMap Stroke.changes).take 32 ∧
    (((a.strokes uptime time).flatMap Stroke.changes).length ≤ 32 →
      replay (a.runCycle uptime time).answer.switches a.actuators.levels =
        (a.runCycle uptime time).state.actuators.levels) ∧
    ∀ (l : Loop ρ δ σ) (uplink : Uplink), l.aquarium = a →
      (Scheduler.step l uptime time uplink).answer = none ∧
          Journal.events (Scheduler.step l uptime time uplink).journal = [] ∨
        (Scheduler.step l uptime time uplink).answer = some (a.runCycle uptime time).answer ∧
          ∃ sent, (∀ e ∈ sent, Event.concernsUplink e = true) ∧
            Journal.events (Scheduler.step l uptime time uplink).journal =
              (a.sensors.failing.map fun f => .sensorReadFailed f.1 f.2) ++
                (a.runCycle uptime time).answer.switches.map .actuatorSwitched ++ sent := by
  obtain ⟨q, hcourse, hactuators, hswitches⟩ := a.course_runCycle uptime time
  have hlog : (a.runCycle uptime time).answer.switches =
      ((a.strokes uptime time).flatMap Stroke.changes).take 32 := by
    rw [← hswitches, hcourse.switches h, Plant.foldl_record _ (Nat.zero_le _), List.nil_append]
  refine ⟨hactuators ▸ hcourse.linked, fun s hs => ?_, hlog, fun hfew => ?_, ?_⟩
  · -- no command makes a driver dishonest or changes what an actuator names
    obtain ⟨p, controller, id, on, rfl, hp, hnames⟩ := hcourse.exists_stroke
      (I := fun actuators => actuators.Honest ∧ actuators.reference = a.actuators.reference)
      (fun p controller id on hp => ⟨Plant.honest_switch hp.1 controller id on,
        (p.reference_switch controller id on).trans hp.2⟩) ⟨h, rfl⟩ s hs
    refine ⟨(Plant.stroke_effect hp controller id on).1, fun e he => ?_⟩
    obtain ⟨hon, hcontroller⟩ := Actuators.mem_changes he
    rw [← hnames, ← p.reference_switch controller id on]
    exact ⟨hon, hcontroller⟩
  · rw [hlog, List.take_of_length_le hfew, hcourse.replay_changes h, hactuators]
  · rintro l uplink rfl
    exact Scheduler.events_step l uptime time uplink

/-- A script that switches its relay 33 times. -/
def fluttering : Aquarium AnyRule Relay Probe :=
  let flutter : AnyRule := .script { Script.default with
    actions := (List.range 33).map fun i => .switch (.ofNat 0) (i % 2 == 0) }
  let bare : Aquarium AnyRule Relay Probe :=
    (empty.placeController (.fresh "flutter" flutter)).state
  { bare with
    actuators := (Rig.create (.ofNat 0) flutter [(.ofNat 0, false)]).actuators }

/-- The last switch happens, but there is no room for it in the log. -/
example :
    (fluttering.runCycle 0 none).answer.switches.length = 32 ∧
      replay (fluttering.runCycle 0 none).answer.switches fluttering.actuators.levels (.ofNat 0) =
        some false ∧
      (fluttering.runCycle 0 none).state.actuators.levels (.ofNat 0) = some true := by
  decide +kernel

/-- A script that commands its two relays and the one of another script, and that other script.
The second relay cannot be switched on, and the sensor gives no reading. -/
def busy : Aquarium AnyRule Relay Probe :=
  let first : AnyRule := .script { Script.default with
    actions := [.switch (.ofNat 0) true, .switch (.ofNat 0) true, .switch (.ofNat 1) true,
      .switch (.ofNat 2) true, .switchAll false] }
  let second : AnyRule := .script { Script.default with actions := [.switch (.ofNat 2) true] }
  let bare : Aquarium AnyRule Relay Probe := (((empty.placeController
    (.fresh "first" first)).state.placeController (.fresh "second" second)).state.addSensor
    "silent" Probe.silent).state
  let relays := (Rig.create .unassigned first
    [(.ofNat 0, false), (.ofNat 0, false), (.ofNat 1, false)]).actuators
  { bare with actuators := relays.modify (.ofNat 1) fun s => { s with device := ⟨false, .on⟩ } }

/-- Of seven commands three change an output. -/
theorem busy_cycle_is_replayed :
    let log : List Switch :=
      [⟨.ofNat 0, .ofNat 0, true⟩, ⟨.ofNat 0, .ofNat 0, false⟩, ⟨.ofNat 2, .ofNat 1, true⟩]
    busy.actuators.Honest ∧
      (busy.strokes 0 none).map Stroke.accepted = [true, true, false, false, true, true, true] ∧
      (busy.strokes 0 none).flatMap Stroke.changes = log ∧
      (busy.runCycle 0 none).answer.switches = log ∧
      replay log busy.actuators.levels = (busy.runCycle 0 none).state.actuators.levels ∧
      ∃ sent, (∀ e ∈ sent, Event.concernsUplink e = true) ∧
        Journal.events (Scheduler.step ⟨⟨.polling, true, 0, 0⟩, .idle, busy⟩ 0 none
            fun _ => .ok ()).journal =
          (.sensorReadFailed (.ofNat 0) .probeNoResponse :: log.map .actuatorSwitched) ++ sent := by
  intro log
  have hhonest : busy.actuators.Honest :=
    fun _ slot _ => Actuator.honest_of_faithful Relay.faithful slot.device
  have hchanges : (busy.strokes 0 none).flatMap Stroke.changes = log := by decide +kernel
  obtain ⟨-, -, hlog, hreplay, hevents⟩ := switch_log_is_faithful busy hhonest 0 none
  rw [hchanges] at hlog hreplay
  rw [hlog] at hreplay hevents
  refine ⟨hhonest, by decide +kernel, hchanges, hlog, hreplay (by decide), ?_⟩
  have hfailing : busy.sensors.failing = [(.ofNat 0, .probeNoResponse)] := by decide +kernel
  rw [hfailing] at hevents
  rcases hevents ⟨⟨.polling, true, 0, 0⟩, .idle, busy⟩ (fun _ => .ok ()) rfl with
    ⟨hidle, -⟩ | ⟨-, sent, hsent, hjournal⟩
  · cases hidle
  · exact ⟨sent, hsent, hjournal⟩

end Aquarium

end AquariumControl
