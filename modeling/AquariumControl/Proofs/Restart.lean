import AquariumControl.Proofs.Ownership
import AquariumControl.Proofs.Schedule
import AquariumControl.Proofs.Stored
import AquariumControl.Proofs.Thermostat

/-!
# A restart goes unnoticed

All that a thermostat or a schedule has latched is stored.  What is not stored is whether the
outputs have been driven to it; a rule that was just loaded assumes nothing about them and drives
them at its first run.

* `StandardRule.outputs` — the outputs that a rule drives one by one; `Wired` and `Driven` — they
  are different ones, all the controller's, with drivers that are faithful or dependable.
* `StandardRule.Tracks` — what a rule believes about its outputs is so; `InOrder` — it believes that
  all of them are where they should be.
* `StandardRule.Operated` — the histories of a thermostat or schedule.
* `StandardRule.Twins` — two rules with the same parameters, each with outputs of its own.  A run at
  the same moment keeps them so (`Twins.run`), and once it evaluates them the outputs agree.
-/

set_option autoImplicit false

namespace AquariumControl

/-- The same readings at the same time of day; the uptimes may differ. -/
def Situation.SameMoment (s s' : Situation) : Prop :=
  s'.readings = s.readings ∧ s'.timeOfDay = s.timeOfDay

variable {δ : Type} [Actuator δ]

/-- Whatever program is carried out, an actuator stays as dependable as it was. -/
theorem Plant.Dependable.perform {α : Type} {p : Plant δ} {controller id : SlotId}
    (h : p.Dependable controller id) (other : SlotId) (program : Command α) :
    (program.perform other p).2.Dependable controller id :=
  Command.perform_induction (P := fun q => q.Dependable controller id) other
    (fun _ j on hq => hq.switch other j on) (fun _ _ hq => hq) program p h

/-! ## Two thermostats -/

namespace Thermostat

theorem eq_of_stored {r r' : Thermostat} (h : r'.stored = r.stored) :
    r' = { r with synced := r'.synced } := by
  obtain ⟨sensor, low, heatHysteresis, heater, high, coolHysteresis, cooler, state, synced⟩ := r
  obtain ⟨sensor', low', heatHysteresis', heater', high', coolHysteresis', cooler', state',
    synced'⟩ := r'
  simp only [stored, Stored.mk.injEq, decide_eq_decide] at h
  obtain ⟨rfl, rfl, rfl, rfl, rfl, rfl, rfl, hcooling, hheating⟩ := h
  have hstate : state' = state := by
    cases state <;> cases state' <;> simp_all
  rw [hstate]

/-- What a run makes of the stored part, and how it ends, is up to the stored part and the
readings. -/
theorem run_congr {c : SlotId} {r r' : Thermostat} {p q : Plant δ}
    (h : r'.stored = r.stored) (hw : Wired c r.heater r.cooler p)
    (hw' : Wired c r'.heater r'.cooler q) {s s' : Situation} (hs : s.SameMoment s') :
    ((r'.run s').perform c q).1.1 = ((r.run s).perform c p).1.1 ∧
      ((r'.run s').perform c q).1.2.stored = ((r.run s).perform c p).1.2.stored := by
  have hnext : ∀ t, r'.next t true true = r.next t true true := by
    intro t
    rw [eq_of_stored h]
    rfl
  have hsensor : s'.readings.get? r'.sensor = s.readings.get? r.sensor := by
    rw [hs.1, eq_of_stored h]
  -- a run that has a reading comes to the next state, whether or not it has to drive the outputs
  have houtcome : ∀ {r : Thermostat} {p : Plant δ} {s : Situation}
      (_ : Wired c r.heater r.cooler p),
      ((r.run s).perform c p).1.1 = (if (s.readings.get? r.sensor).isSome then .ran else .skipped) ∧
      ((r.run s).perform c p).1.2.stored = ((s.readings.get? r.sensor).elim r fun t =>
        { r with state := r.next t true true }).stored := by
    intro r p s hw
    rcases run_cases hw s with ⟨ht, hrun, -⟩ | ⟨t, ht, hstate, -, hrun, -⟩ |
        ⟨t, r', ht, rfl, -, hrun, -⟩ <;>
      rw [hrun, ht]
    · exact ⟨rfl, rfl⟩
    · refine ⟨rfl, ?_⟩
      show r.stored = { r with state := r.next t true true }.stored
      rw [hstate]
    · exact ⟨rfl, rfl⟩
  obtain ⟨hstatus, hstored⟩ := houtcome (s := s) hw
  obtain ⟨hstatus', hstored'⟩ := houtcome (s := s') hw'
  rw [hstatus, hstatus', hstored, hstored', hsensor]
  refine ⟨rfl, ?_⟩
  cases s.readings.get? r.sensor with
  | none => exact h
  | some t =>
    show { r' with state := r'.next t true true }.stored =
      { r with state := r.next t true true }.stored
    rw [hnext, eq_of_stored h]
    rfl

/-- Dependable outputs accept both commands, also when they are one and the same. -/
theorem commands_accepted {c : SlotId} {r : Thermostat} {p : Plant δ}
    (hheater : p.Dependable c r.heater) (hcooler : p.Dependable c r.cooler) :
    ((r.firstCommand c p).1 && (r.secondCommand c p).1) = true := by
  have hoff : p.Dependable c r.offSide := by
    rw [offSide]
    split
    · exact hcooler
    · exact hheater
  have hon : p.Dependable c r.onSide := by
    rw [onSide]
    split
    · exact hheater
    · exact hcooler
  rw [firstCommand, hoff.switch_answer, secondCommand, firstCommand,
    (hon.switch c _ _).switch_answer]
  rfl

/-- Dependable outputs are in order after an evaluation. -/
theorem synced_of_dependable {c : SlotId} {r : Thermostat} {p : Plant δ}
    (hne : r.heater ≠ r.cooler) (hheater : p.Dependable c r.heater)
    (hcooler : p.Dependable c r.cooler) {s : Situation}
    (hran : ((r.run s).perform c p).1.1 = .ran) : ((r.run s).perform c p).1.2.synced = true := by
  have hw : Wired c r.heater r.cooler p := ⟨hne, hheater.reliable, hcooler.reliable⟩
  rcases run_cases hw s with ⟨-, h, -⟩ | ⟨t, -, -, hsynced, h, -⟩ | ⟨t, r', -, rfl, -, h, -⟩
  · rw [h] at hran
    cases hran
  · rw [h]
    exact hsynced
  · rw [h]
    exact commands_accepted (r := { r with state := r.next t true true }) hheater hcooler

end Thermostat

namespace StandardRule

/-! ## Outputs -/

/-- The outputs that a rule drives one by one. -/
def outputs : StandardRule → List SlotId
  | .thermostat r => [r.heater, r.cooler]
  | .topUp _ => []
  | .schedule r => r.outputs

/-- Different outputs, all commanded by `c` through faithful drivers. -/
structure Wired (c : SlotId) (rule : StandardRule) (p : Plant δ) : Prop where
  nodup : rule.outputs.Nodup
  reliable : ∀ id ∈ rule.outputs, p.Reliable c id

/-- Different outputs, all commanded by `c` through drivers that always work. -/
structure Driven (c : SlotId) (rule : StandardRule) (p : Plant δ) : Prop where
  nodup : rule.outputs.Nodup
  dependable : ∀ id ∈ rule.outputs, p.Dependable c id

theorem Driven.wired {c : SlotId} {rule : StandardRule} {p : Plant δ} (h : Driven c rule p) :
    Wired c rule p :=
  ⟨h.nodup, fun id hid => (h.dependable id hid).reliable⟩

theorem Wired.thermostat {c : SlotId} {r : Thermostat} {p : Plant δ}
    (h : Wired c (.thermostat r) p) : Thermostat.Wired c r.heater r.cooler p := by
  have hne : r.heater ≠ r.cooler := fun he =>
    (List.nodup_cons.mp h.nodup).1 (he ▸ List.mem_cons_self)
  exact ⟨hne, h.reliable _ List.mem_cons_self,
    h.reliable _ (List.mem_cons_of_mem _ List.mem_cons_self)⟩

theorem Wired.channel {c : SlotId} {r : Schedule} {p : Plant δ} (h : Wired c (.schedule r) p) :
    ∀ ch ∈ r.channels.toList, ch.Wired c p :=
  fun _ hmem ha => h.reliable _ (Schedule.mem_outputs hmem ha)

/-- The outputs are part of the parameters. -/
theorem outputs_of_parameters {rule rule' : StandardRule}
    (h : rule'.parameters = rule.parameters) : rule'.outputs = rule.outputs := by
  cases alike_of_parameters h with
  | thermostat r r' =>
    have hr : r'.stored = r.stored := RuleParameters.thermostat.inj h
    rw [outputs, outputs, Thermostat.eq_of_stored hr]
  | topUp r r' => rfl
  | schedule r r' =>
    have htimers :
        r'.channels.toList.map Channel.timer = r.channels.toList.map Channel.timer := by
      rw [← Vector.toList_map, ← Vector.toList_map, RuleParameters.schedule.inj h]
    have hids := congrArg (List.map Timer.actuator) htimers
    rw [List.map_map, List.map_map] at hids
    exact congrArg (List.filter SlotId.isAssigned) hids

/-! ## One run -/

theorem perform_thermostat (c : SlotId) (r : Thermostat) (s : Situation) (p : Plant δ) :
    ((StandardRule.thermostat r).run s).perform c p =
      ((((r.run s).perform c p).1.1, .thermostat ((r.run s).perform c p).1.2),
        ((r.run s).perform c p).2) := by
  rw [run, Command.perform_bind]
  rfl

theorem perform_schedule (c : SlotId) (r : Schedule) (s : Situation) (p : Plant δ) :
    ((StandardRule.schedule r).run s).perform c p =
      ((((r.run s).perform c p).1.1, .schedule ((r.run s).perform c p).1.2),
        ((r.run s).perform c p).2) := by
  rw [run, Command.perform_bind]
  rfl

/-- What a rule believes about its outputs is so. -/
def Tracks (p : Plant δ) : StandardRule → Prop
  | .thermostat r => r.Tracks p
  | .topUp _ => True
  | .schedule r => ∀ ch ∈ r.channels.toList, ch.Tracks p

/-- A rule believes that all its outputs are where they should be. -/
def InOrder : StandardRule → Prop
  | .thermostat r => r.synced = true
  | .topUp _ => True
  | .schedule r =>
    ∀ ch ∈ r.channels.toList, ch.timer.actuator.isAssigned = true → ch.applied = true

/-- What a run changes of a rule whose outputs are its own: not the kind, not the outputs, and not
that it tracks them. -/
theorem tracks_run {c : SlotId} {rule : StandardRule} {p : Plant δ} (hw : Wired c rule p)
    (ht : rule.Tracks p) (s : Situation) :
    Rule.kind ((rule.run s).perform c p).1.2 = Rule.kind rule ∧
      ((rule.run s).perform c p).1.2.outputs = rule.outputs ∧
      ((rule.run s).perform c p).1.2.Tracks ((rule.run s).perform c p).2 := by
  cases rule with
  | thermostat r =>
    obtain ⟨hheater, hcooler⟩ := Thermostat.run_outputs hw.thermostat s
    rw [perform_thermostat, outputs, outputs, hheater, hcooler]
    exact ⟨rfl, rfl, Thermostat.tracks_run hw.thermostat ht s⟩
  | topUp r =>
    rw [run, Command.perform_bind]
    exact ⟨rfl, rfl, trivial⟩
  | schedule r =>
    rw [perform_schedule]
    cases hnow : s.timeOfDay with
    | none =>
      rw [Schedule.run, hnow]
      exact ⟨rfl, rfl, ht⟩
    | some now =>
      obtain ⟨-, hchannels, hplant⟩ := r.perform_run (c := c) hnow p
      obtain ⟨htimers, htracks, -⟩ :=
        Schedule.perform_channels now r.channels.toList p hw.nodup hw.channel ht
      refine ⟨rfl, ?_, fun ch hch => ?_⟩
      · have hids := congrArg (List.map Timer.actuator) htimers
        rw [← hchannels, List.map_map, List.map_map] at hids
        refine congrArg (List.filter SlotId.isAssigned) (hids.trans ?_)
        exact List.map_congr_left fun ch _ => ch.timer.actuator_evaluated now
      · rw [hplant]
        rw [hchannels] at hch
        exact htracks ch hch

/-- After an evaluation of dependable outputs the rule has them in order; a run that is skipped
leaves that as it was. -/
theorem inOrder_run {c : SlotId} {rule : StandardRule} {p : Plant δ} (hd : Driven c rule p)
    {s : Situation} (h : ((rule.run s).perform c p).1.1 = .ran ∨ rule.InOrder) :
    ((rule.run s).perform c p).1.2.InOrder := by
  cases rule with
  | thermostat r =>
    rw [perform_thermostat] at h ⊢
    have hne : r.heater ≠ r.cooler := hd.wired.thermostat.ne
    have hheater := hd.dependable r.heater List.mem_cons_self
    have hcooler := hd.dependable r.cooler (List.mem_cons_of_mem _ List.mem_cons_self)
    by_cases hran : ((r.run s).perform c p).1.1 = .ran
    · exact Thermostat.synced_of_dependable hne hheater hcooler hran
    · have hsynced : r.synced = true := h.resolve_left hran
      rcases Thermostat.run_cases hd.wired.thermostat s with ⟨-, hrun, -⟩ | ⟨_, -, -, -, hrun, -⟩ |
          ⟨_, _, -, -, -, hrun, -⟩
      · rw [hrun]
        exact hsynced
      · rw [hrun]
        exact hsynced
      · rw [hrun] at hran
        exact absurd rfl hran
  | topUp r =>
    rw [run, Command.perform_bind]
    exact trivial
  | schedule r =>
    rw [perform_schedule] at h ⊢
    cases hnow : s.timeOfDay with
    | none =>
      rw [Schedule.run, hnow] at h ⊢
      refine h.resolve_left fun hran => ?_
      cases hran
    | some now =>
      obtain ⟨-, hchannels, -⟩ := r.perform_run (c := c) hnow p
      intro ch hch
      rw [hchannels] at hch
      exact Schedule.applied_channels now r.channels.toList p
        (fun other hmem ha => hd.dependable _ (Schedule.mem_outputs hmem ha)) ch hch

theorem Driven.run {c : SlotId} {rule : StandardRule} {p : Plant δ} (hd : Driven c rule p)
    (ht : rule.Tracks p) (s : Situation) :
    Driven c ((rule.run s).perform c p).1.2 ((rule.run s).perform c p).2 := by
  obtain ⟨-, houtputs, -⟩ := tracks_run hd.wired ht s
  refine ⟨houtputs ▸ hd.nodup, fun id hid => ?_⟩
  rw [houtputs] at hid
  exact (hd.dependable id hid).perform c (rule.run s)

/-! ## Histories -/

/-- **The histories of a thermostat or schedule**, from a new one on: what it and the plant around
it can come to.  At a run its outputs must be different ones of its own; their drivers may fail.  In
between, any setting may change, the outputs too, and the plant may change in any way that leaves
the rule's outputs as they are. -/
inductive Operated (c : SlotId) : StandardRule → Plant δ → Prop
  | thermostat (p : Plant δ) : Operated c (.thermostat Thermostat.default) p
  | schedule (p : Plant δ) : Operated c (.schedule Schedule.default) p
  | run {rule : StandardRule} {p : Plant δ} (s : Situation) (h : Operated c rule p)
      (hw : Wired c rule p) :
      Operated c ((rule.run s).perform c p).1.2 ((rule.run s).perform c p).2
  | set {r : Thermostat} {p : Plant δ} (x : Thermostat.Setting) (h : Operated c (.thermostat r) p) :
      Operated c (.thermostat (r.set x)) p
  | changeTimer {r : Schedule} {p : Plant δ} {α : Type} (index : Nat) (change : Timer → α × Timer)
      (h : Operated c (.schedule r) p) : Operated c (.schedule (r.changeTimer index change).2) p
  | reset {rule : StandardRule} {p : Plant δ} (h : Operated c rule p) : Operated c rule.reset p
  | load {rule rule' : StandardRule} {p : Plant δ} {bytes : List UInt8} {used : Nat}
      (h : Operated c rule p) (hload : Rule.load rule bytes = .ok (rule', used)) :
      Operated c rule' p
  | elsewhere {rule : StandardRule} {p p' : Plant δ} (h : Operated c rule p)
      (hsame : ∀ id ∈ rule.outputs, p'.isOn id = p.isOn id) : Operated c rule p'

/-- Timers that claim nothing about their outputs are right about them. -/
theorem tracks_of_not_applied {r : Schedule} (h : ∀ ch ∈ r.channels.toList, ch.applied = false)
    (p : Plant δ) : (StandardRule.schedule r).Tracks p := by
  intro ch hch _ happlied
  rw [h ch hch] at happlied
  cases happlied

/-- A rule that was just loaded claims nothing about its outputs. -/
theorem tracks_of_load {rule rule' : StandardRule} {bytes : List UInt8} {used : Nat}
    (hload : Rule.load rule bytes = .ok (rule', used)) (p : Plant δ) : rule'.Tracks p := by
  cases rule with
  | thermostat r =>
    obtain ⟨⟨r', n⟩, hr, he⟩ := Except.map_eq_ok hload
    obtain ⟨rfl, -⟩ := Prod.mk.inj he
    intro hsynced
    rw [Thermostat.synced_of_load hr] at hsynced
    cases hsynced
  | topUp r =>
    obtain ⟨⟨r', n⟩, -, he⟩ := Except.map_eq_ok hload
    obtain ⟨rfl, -⟩ := Prod.mk.inj he
    trivial
  | schedule r =>
    obtain ⟨⟨r', n⟩, hr, he⟩ := Except.map_eq_ok hload
    obtain ⟨rfl, -⟩ := Prod.mk.inj he
    exact tracks_of_not_applied (Schedule.not_applied_of_load hr) p

theorem tracks_of_changeTimer {r : Schedule} {p : Plant δ} {α : Type} (index : Nat)
    (change : Timer → α × Timer) (h : (StandardRule.schedule r).Tracks p) :
    (StandardRule.schedule (r.changeTimer index change).2).Tracks p := by
  rw [Schedule.changeTimer]
  split
  · intro ch hch
    rw [Vector.toList_set] at hch
    rcases List.mem_or_eq_of_mem_set hch with hold | rfl
    · exact h ch hold
    · intro _ happlied
      cases happlied
  · exact h

/-- **The invariant of every history.** -/
theorem Operated.tracks {c : SlotId} {rule : StandardRule} {p : Plant δ}
    (h : Operated c rule p) : Rule.kind rule ≠ .topUp ∧ rule.Tracks p := by
  induction h with
  | thermostat p => exact ⟨nofun, fun hsynced => by cases hsynced⟩
  | schedule p =>
    refine ⟨nofun, tracks_of_not_applied (fun ch hch => ?_) p⟩
    rw [Schedule.default, Vector.toList_replicate] at hch
    rw [List.eq_of_mem_replicate hch]
  | run s _ hw ih =>
    obtain ⟨hkind, -, htracks⟩ := tracks_run hw ih.2 s
    exact ⟨hkind ▸ ih.1, htracks⟩
  | set x _ ih => exact ⟨nofun, Thermostat.Tracks.set ih.2 x⟩
  | changeTimer index change _ ih => exact ⟨nofun, tracks_of_changeTimer index change ih.2⟩
  | @reset rule p _ ih =>
    cases rule with
    | thermostat r => exact ⟨nofun, fun hsynced => by cases hsynced⟩
    | topUp r => exact absurd rfl ih.1
    | schedule r => exact ⟨nofun, tracks_of_not_applied r.not_applied_reset p⟩
  | @load rule rule' p bytes used _ hload ih =>
    have hkind := load_eq rule bytes
    rw [hload] at hkind
    obtain ⟨_, -, he⟩ := Except.map_eq_ok hkind.symm
    exact ⟨(Prod.mk.inj he).1 ▸ ih.1, tracks_of_load hload p⟩
  | @elsewhere rule p p' _ hsame ih =>
    refine ⟨ih.1, ?_⟩
    cases rule with
    | thermostat r =>
      intro hsynced
      rw [hsame _ List.mem_cons_self, hsame _ (List.mem_cons_of_mem _ List.mem_cons_self)]
      exact ih.2 hsynced
    | topUp r => trivial
    | schedule r =>
      intro ch hch ha happlied
      rw [hsame _ (Schedule.mem_outputs hch ha)]
      exact ih.2 ch hch ha happlied

/-! ## Two rules at the same moments -/

theorem parameters_run_schedule {c : SlotId} {r r' : Schedule} {p q : Plant δ}
    (h : r'.channels.map Channel.timer = r.channels.map Channel.timer)
    (hw : Wired c (.schedule r) p) (hw' : Wired c (.schedule r') q)
    (ht : (StandardRule.schedule r).Tracks p) (ht' : (StandardRule.schedule r').Tracks q)
    {s s' : Situation} (hs : s.SameMoment s') :
    ((r'.run s').perform c q).1.1 = ((r.run s).perform c p).1.1 ∧
      ((r'.run s').perform c q).1.2.channels.map Channel.timer =
        ((r.run s).perform c p).1.2.channels.map Channel.timer := by
  cases hnow : s.timeOfDay with
  | none =>
    rw [Schedule.run, Schedule.run, hs.2, hnow]
    exact ⟨rfl, h⟩
  | some now =>
    obtain ⟨hstatus, hchannels, -⟩ := r.perform_run (c := c) hnow p
    obtain ⟨hstatus', hchannels', -⟩ := r'.perform_run (c := c) (hs.2.trans hnow) q
    refine ⟨hstatus'.trans hstatus.symm, Vector.toList_inj.mp ?_⟩
    obtain ⟨htimers, -, -⟩ :=
      Schedule.perform_channels now r.channels.toList p hw.nodup hw.channel ht
    obtain ⟨htimers', -, -⟩ :=
      Schedule.perform_channels now r'.channels.toList q hw'.nodup hw'.channel ht'
    have hlist : r'.channels.toList.map Channel.timer = r.channels.toList.map Channel.timer := by
      rw [← Vector.toList_map, ← Vector.toList_map, h]
    have hevaluated := congrArg (List.map fun t => Timer.evaluated t now) hlist
    rw [List.map_map, List.map_map] at hevaluated
    rw [Vector.toList_map, Vector.toList_map, hchannels, hchannels', htimers, htimers']
    exact hevaluated

/-- Two thermostats or two schedules with the same parameters, each with outputs of its own that it
is right about. -/
structure Twins (c : SlotId) (rule : StandardRule) (p : Plant δ) (rule' : StandardRule)
    (q : Plant δ) : Prop where
  kind : Rule.kind rule ≠ .topUp
  parameters : rule'.parameters = rule.parameters
  driven : Driven c rule p
  driven' : Driven c rule' q
  tracks : rule.Tracks p
  tracks' : rule'.Tracks q

/-- At the same moment twins do the same, and are twins afterwards. -/
theorem Twins.run {c : SlotId} {rule rule' : StandardRule} {p q : Plant δ}
    (h : Twins c rule p rule' q) {s s' : Situation} (hs : s.SameMoment s') :
    ((rule'.run s').perform c q).1.1 = ((rule.run s).perform c p).1.1 ∧
      Twins c ((rule.run s).perform c p).1.2 ((rule.run s).perform c p).2
        ((rule'.run s').perform c q).1.2 ((rule'.run s').perform c q).2 := by
  obtain ⟨hkind, -, htracks⟩ := tracks_run h.driven.wired h.tracks s
  obtain ⟨-, -, htracks'⟩ := tracks_run h.driven'.wired h.tracks' s'
  have hsame : ((rule'.run s').perform c q).1.1 = ((rule.run s).perform c p).1.1 ∧
      ((rule'.run s').perform c q).1.2.parameters = ((rule.run s).perform c p).1.2.parameters := by
    have hparameters := h.parameters
    cases alike_of_parameters hparameters with
    | thermostat r r' =>
      obtain ⟨hstatus, hstored⟩ := Thermostat.run_congr
        (RuleParameters.thermostat.inj hparameters) h.driven.wired.thermostat
        h.driven'.wired.thermostat hs
      rw [perform_thermostat, perform_thermostat]
      exact ⟨hstatus, congrArg RuleParameters.thermostat hstored⟩
    | topUp r r' => exact absurd rfl h.kind
    | schedule r r' =>
      obtain ⟨hstatus, htimers⟩ := parameters_run_schedule
        (RuleParameters.schedule.inj hparameters) h.driven.wired h.driven'.wired h.tracks
        h.tracks' hs
      rw [perform_schedule, perform_schedule]
      exact ⟨hstatus, congrArg RuleParameters.schedule htimers⟩
  exact ⟨hsame.1, hkind ▸ h.kind, hsame.2, h.driven.run h.tracks s, h.driven'.run h.tracks' s',
    htracks, htracks'⟩

/-- Twins that have their outputs in order have them in the same states. -/
theorem Twins.isOn {c : SlotId} {rule rule' : StandardRule} {p q : Plant δ}
    (h : Twins c rule p rule' q) (horder : rule.InOrder) (horder' : rule'.InOrder) :
    ∀ id ∈ rule.outputs, q.isOn id = p.isOn id := by
  have hparameters := h.parameters
  have htracks := h.tracks
  have htracks' := h.tracks'
  intro id hid
  cases alike_of_parameters hparameters with
  | thermostat r r' =>
    obtain ⟨hheater, hcooler⟩ := htracks horder
    obtain ⟨hheater', hcooler'⟩ := htracks' horder'
    rw [Thermostat.eq_of_stored (RuleParameters.thermostat.inj hparameters)] at hheater' hcooler'
    rcases List.mem_cons.mp hid with rfl | hid
    · exact hheater'.trans hheater.symm
    · rw [List.mem_singleton.mp hid]
      exact hcooler'.trans hcooler.symm
  | topUp r r' => exact absurd hid List.not_mem_nil
  | schedule r r' =>
    obtain ⟨hmap, ha⟩ := List.mem_filter.mp hid
    obtain ⟨ch, hch, rfl⟩ := List.mem_map.mp hmap
    have htimers : r'.channels.toList.map Channel.timer =
        r.channels.toList.map Channel.timer := by
      rw [← Vector.toList_map, ← Vector.toList_map, RuleParameters.schedule.inj hparameters]
    have hmem : ch.timer ∈ r'.channels.toList.map Channel.timer :=
      htimers ▸ List.mem_map_of_mem hch
    obtain ⟨ch', hch', he⟩ := List.mem_map.mp hmem
    have hon := htracks ch hch ha (horder ch hch ha)
    have ha' : ch'.timer.actuator.isAssigned = true := he ▸ ha
    have hon' := htracks' ch' hch' ha' (horder' ch' hch' ha')
    rw [he] at hon'
    exact hon'.trans hon.symm

/-- The statuses of runs one after the other, and what the rule and the plant come to. -/
def runs (c : SlotId) : List Situation → StandardRule → Plant δ →
    List RunStatus × StandardRule × Plant δ
  | [], rule, p => ([], rule, p)
  | s :: rest, rule, p =>
    let ((status, rule'), p') := (rule.run s).perform c p
    let (statuses, last) := runs c rest rule' p'
    (status :: statuses, last)

/-- What twins do in any number of runs at the same moments.  Their outputs agree at the end if they
were in order at first, or if any run evaluated them. -/
theorem Twins.runs {c : SlotId} {rounds : List (Situation × Situation)}
    (hrounds : ∀ round ∈ rounds, round.1.SameMoment round.2) :
    ∀ {rule rule' : StandardRule} {p q : Plant δ}, Twins c rule p rule' q →
      (StandardRule.runs c (rounds.map Prod.snd) rule' q).1 =
          (StandardRule.runs c (rounds.map Prod.fst) rule p).1 ∧
        (StandardRule.runs c (rounds.map Prod.snd) rule' q).2.1.parameters =
          (StandardRule.runs c (rounds.map Prod.fst) rule p).2.1.parameters ∧
        ((rule.InOrder ∧ rule'.InOrder) ∨
            .ran ∈ (StandardRule.runs c (rounds.map Prod.fst) rule p).1 →
          ∀ id ∈ rule.outputs, (StandardRule.runs c (rounds.map Prod.snd) rule' q).2.2.isOn id =
            (StandardRule.runs c (rounds.map Prod.fst) rule p).2.2.isOn id) := by
  induction rounds with
  | nil =>
    intro rule rule' p q h
    refine ⟨rfl, h.parameters, fun horder => ?_⟩
    obtain ⟨horder, horder'⟩ := horder.resolve_right List.not_mem_nil
    exact h.isOn horder horder'
  | cons round rest ih =>
    intro rule rule' p q h
    have hs := hrounds round List.mem_cons_self
    obtain ⟨hstatus, htwins⟩ := h.run hs
    obtain ⟨hstatuses, hparameters, hison⟩ :=
      ih (fun later hmem => hrounds later (List.mem_cons_of_mem _ hmem)) htwins
    obtain ⟨-, houtputs, -⟩ := tracks_run h.driven.wired h.tracks round.1
    refine ⟨?_, hparameters, fun hbefore => ?_⟩
    · simp only [List.map_cons, StandardRule.runs, hstatus, hstatuses]
    · rw [houtputs] at hison
      refine hison ?_
      -- either a later run evaluates the outputs, or this run leaves them in order
      rcases hbefore with ⟨horder, horder'⟩ | hran
      · exact .inl ⟨inOrder_run h.driven (.inr horder), inOrder_run h.driven' (.inr horder')⟩
      · rcases List.mem_cons.mp hran with hnow | hlater
        · exact .inl ⟨inOrder_run h.driven (.inl hnow.symm),
            inOrder_run h.driven' (.inl (hstatus.trans hnow.symm))⟩
        · exact .inr hlater

/-! ## The restart -/

/-- A new rule of the same kind. -/
def renewed : StandardRule → StandardRule
  | .thermostat _ => .thermostat Thermostat.default
  | .topUp _ => .topUp TopUp.default
  | .schedule _ => .schedule Schedule.default

theorem kind_renewed (rule : StandardRule) : Rule.kind rule.renewed = Rule.kind rule := by
  cases rule <;> rfl

/-- **A restart goes unnoticed.**  Take a thermostat or schedule with any history, whose outputs are
different dependable ones of its own and whose ids all belong to a registry.  It can be saved, and a
new rule can load what was saved.  Started with the outputs in any states, the new rule then does at
every moment what the old one would have done: it answers with the same statuses and comes to the
same parameters, latched states included, and from the first evaluation on its outputs are where
those of the old rule would be. -/
theorem restart_goes_unnoticed {c : SlotId} {rule : StandardRule} {p : Plant δ}
    (hist : Operated c rule p) (hids : rule.parameters.confined = rule.parameters)
    (hdriven : Driven c rule p) :
    ∃ payload rule' used, Record.payloadOf (Rule.save rule payloadCapacity) = .ok payload ∧
      Rule.load rule.renewed payload.val = .ok (rule', used) ∧
      ∀ q : Plant δ, Driven c rule q → ∀ rounds : List (Situation × Situation),
        (∀ round ∈ rounds, round.1.SameMoment round.2) →
          (runs c (rounds.map Prod.snd) rule' q).1 = (runs c (rounds.map Prod.fst) rule p).1 ∧
          (runs c (rounds.map Prod.snd) rule' q).2.1.parameters =
            (runs c (rounds.map Prod.fst) rule p).2.1.parameters ∧
          (.ran ∈ (runs c (rounds.map Prod.fst) rule p).1 →
            ∀ id ∈ rule.outputs, (runs c (rounds.map Prod.snd) rule' q).2.2.isOn id =
              (runs c (rounds.map Prod.fst) rule p).2.2.isOn id) := by
  obtain ⟨hkind, htracks⟩ := hist.tracks
  obtain ⟨rule', used, hload, -, hparameters⟩ := load_encode rule.kind_renewed
  rw [hids] at hparameters
  refine ⟨_, rule', used, rule.payloadOf_save, hload, fun q hq rounds hrounds => ?_⟩
  have houtputs := outputs_of_parameters hparameters
  have hdriven' : Driven c rule' q :=
    ⟨houtputs ▸ hq.nodup, fun id hid => hq.dependable id (houtputs ▸ hid)⟩
  have htwins : Twins c rule p rule' q :=
    ⟨hkind, hparameters, hdriven, hdriven', htracks, tracks_of_load hload q⟩
  obtain ⟨hstatuses, hlast, hison⟩ := htwins.runs hrounds
  exact ⟨hstatuses, hlast, fun hran => hison (.inr hran)⟩

/-- Two relays of the controller in place 0 that work, in given states. -/
def pair (heater cooler : Bool) : Plant Relay :=
  let rig := Rig.create (.ofNat 0) (.script Script.default)
    [(.ofNat 0, heater), (.ofNat 0, cooler)]
  ⟨rig.actuators, [], []⟩

/-- A thermostat that was fitted and is heating. -/
def heating : StandardRule :=
  .thermostat ((Thermostat.fitted.run Thermostat.cold).perform (.ofNat 0) (pair false false)).1.2

theorem driven_pair {rule : StandardRule} (houtputs : rule.outputs = [.ofNat 0, .ofNat 1])
    (heater cooler : Bool) : Driven (.ofNat 0) rule (pair heater cooler) := by
  refine ⟨?_, fun id hid => ?_⟩
  · rw [houtputs]
    decide
  · rw [houtputs] at hid
    rcases List.mem_cons.mp hid with rfl | hid
    · exact ⟨_, rfl, rfl, Relay.dependable rfl⟩
    · rw [List.mem_singleton.mp hid]
      exact ⟨_, rfl, rfl, Relay.dependable rfl⟩

theorem operated_heating : Operated (.ofNat 0) heating (pair true false) := by
  have hfitted : Operated (.ofNat 0) (.thermostat Thermostat.fitted) (pair false false) :=
    (((Operated.thermostat _).set (.heater (.ofNat 0))).set (.cooler (.ofNat 1))).set
      (.sensor (.ofNat 0))
  have hran := hfitted.run Thermostat.cold (driven_pair rfl false false).wired
  rw [perform_thermostat] at hran
  exact hran.elsewhere (by decide)

/-- Restarted with the heater off and the cooler on, the thermostat does nothing until it has a
reading, and then heats as before. -/
theorem heats_again_after_restart :
    ∃ payload rule' used,
      Record.payloadOf (Rule.save heating payloadCapacity) = .ok payload ∧
      Rule.load heating.renewed payload.val = .ok (rule', used) ∧
      (runs (.ofNat 0) [⟨.ofNat 0, Readings.empty, 0, none⟩, Thermostat.cold] rule'
        (pair false true)).1 = [.skipped, .ran] ∧
      (runs (.ofNat 0) [⟨.ofNat 0, Readings.empty, 0, none⟩, Thermostat.cold] rule'
        (pair false true)).2.2.isOn (.ofNat 0) = true ∧
      (runs (.ofNat 0) [⟨.ofNat 0, Readings.empty, 0, none⟩, Thermostat.cold] rule'
        (pair false true)).2.2.isOn (.ofNat 1) = false := by
  obtain ⟨payload, rule', used, hsave, hload, hsame⟩ :=
    restart_goes_unnoticed operated_heating (by decide) (driven_pair rfl true false)
  obtain ⟨hstatuses, -, hison⟩ := hsame (pair false true) (driven_pair rfl false true)
    [(⟨.ofNat 0, Readings.empty, 90000, none⟩, ⟨.ofNat 0, Readings.empty, 0, none⟩),
      (Thermostat.cold, Thermostat.cold)]
    (by
      intro round hround
      rcases List.mem_cons.mp hround with rfl | hround
      · exact ⟨rfl, rfl⟩
      · rw [List.mem_singleton.mp hround]
        exact ⟨rfl, rfl⟩)
  have hran := hison (by decide)
  refine ⟨payload, rule', used, hsave, hload, hstatuses.trans (by decide), ?_, ?_⟩
  · exact (hran (.ofNat 0) (by decide)).trans (by decide)
  · exact (hran (.ofNat 1) (by decide)).trans (by decide)

end StandardRule

end AquariumControl
