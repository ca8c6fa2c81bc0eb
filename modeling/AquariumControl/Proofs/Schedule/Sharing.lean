import AquariumControl.Proofs.Schedule.Timekeeping

/-!
# Timers that share an output

Nothing keeps two timers of a schedule from naming the same actuator.  The timers do not know of
each other: each gives its own command when what it wants changes, or has not been applied yet, and
the commands of a run follow in the order of the timers.  So the last command counts, and a timer
that wants the output off may undo what another one wants.

* `Schedule.run_shared` — a run with drivers that always work: every timer has applied what it
  wants, and every output is where the last command put it.
* `Schedule.Served` and `Served.tracked` — along every history there is for each output a timer that
  is right about it.
* `Schedule.last_command_decides` — what the timers of an output have to say about it.
-/

set_option autoImplicit false

namespace AquariumControl

variable {δ : Type} [Actuator δ]

namespace Schedule

/-! ## Histories -/

/-- Every output of the schedule is the controller's and has a driver that always works. -/
def Driven (c : SlotId) (r : Schedule) (p : Plant δ) : Prop :=
  ∀ id ∈ r.outputs, p.Dependable c id

/-- **The histories of a schedule whose timers may share outputs**, from any one on that has not
applied anything yet.  A run needs drivers that work.  In between, timers may change, the schedule
may be reset or loaded, and the plant may change in any way that leaves the outputs as they are.  A
timer does not give up an output while others still have it. -/
inductive Served (c : SlotId) : Schedule → Plant δ → Prop
  | fresh {r : Schedule} (p : Plant δ) (h : ∀ ch ∈ r.channels.toList, ch.applied = false) :
      Served c r p
  | run {r : Schedule} {p : Plant δ} (s : Situation) (h : Served c r p) (hd : Driven c r p) :
      Served c ((r.run s).perform c p).1.2 ((r.run s).perform c p).2
  | changeTimer {r : Schedule} {p : Plant δ} {α : Type} (index : Nat) (change : Timer → α × Timer)
      (h : Served c r p)
      (hkeep : ∀ hi : index < timersPerSchedule,
        (change r.channels[index].timer).2.actuator = r.channels[index].timer.actuator ∨
          r.channels[index].timer.actuator.isAssigned = false ∨
          ∀ (j : Nat) (hj : j < timersPerSchedule), j ≠ index →
            r.channels[j].timer.actuator ≠ r.channels[index].timer.actuator) :
      Served c (r.changeTimer index change).2 p
  | reset {r : Schedule} {p : Plant δ} (h : Served c r p) : Served c r.reset p
  | load {r r' : Schedule} {p : Plant δ} {bytes : List UInt8} {used : Nat} (h : Served c r p)
      (hload : Rule.load r bytes = .ok (r', used)) : Served c r' p
  | elsewhere {r : Schedule} {p p' : Plant δ} (h : Served c r p)
      (hsame : ∀ id ∈ r.outputs, p'.isOn id = p.isOn id) : Served c r p'

/-- For each output there is a timer that is right about it. -/
def Tracked (r : Schedule) (p : Plant δ) : Prop :=
  ∀ id ∈ r.outputs, ∃ ch ∈ r.channels.toList, ch.timer.actuator = id ∧ ch.Tracks p

theorem mem_outputs_iff {r : Schedule} {id : SlotId} :
    id ∈ r.outputs ↔
      id.isAssigned = true ∧ ∃ ch ∈ r.channels.toList, ch.timer.actuator = id := by
  rw [outputs, Channel.outputs, List.mem_filter, List.mem_map, and_comm]

/-- If all timers are right, one of each output is. -/
theorem tracked_of_tracks {r : Schedule} {p : Plant δ} (h : (StandardRule.schedule r).Tracks p) :
    r.Tracked p := by
  intro id hid
  obtain ⟨-, ch, hch, hname⟩ := mem_outputs_iff.mp hid
  exact ⟨ch, hch, hname, h ch hch⟩

/-- Some timer of an output wants what a run leaves there: the last one that had a command, or, if
there was none, the one that was right before. -/
theorem exists_wanting {r : Schedule} {p : Plant δ} (ht : r.Tracked p) (now : TimeOfDay)
    {id : SlotId} (hid : id ∈ r.outputs) :
    ∃ ch ∈ r.channels.toList, ch.timer.actuator = id ∧
      (Channel.lastCall now id r.channels.toList).getD (p.isOn id) = ch.timer.wantsOn now := by
  cases hlast : (Channel.callers now id r.channels.toList).getLast? with
  | some ch =>
    have hmem := List.mem_of_getLast? hlast
    rw [Channel.callers, List.mem_filter, decide_eq_true_eq] at hmem
    refine ⟨ch, hmem.1, hmem.2.1, ?_⟩
    rw [Channel.lastCall, hlast]
    rfl
  | none =>
    obtain ⟨ch, hch, hname, htracks⟩ := ht id hid
    have ha := (mem_outputs_iff.mp hid).1
    have hidle : ch.due now = false := by
      rw [List.getLast?_eq_none_iff, Channel.callers, List.filter_eq_nil_iff] at hlast
      have hno := hlast ch hch
      rw [decide_eq_true_eq, not_and, Bool.not_eq_true] at hno
      exact hno hname
    obtain ⟨hwant, happlied⟩ := Channel.due_eq_false_iff.mp hidle
    refine ⟨ch, hch, hname, ?_⟩
    rw [Channel.lastCall, hlast, hwant, ← hname]
    exact htracks (hname ▸ ha) happlied

/-- What a run comes to when all drivers work. -/
theorem run_shared {c : SlotId} {r : Schedule} {p : Plant δ} (hd : Driven c r p) {s : Situation}
    {now : TimeOfDay} (hnow : s.timeOfDay = some now) :
    ((r.run s).perform c p).1.2.channels.toList = r.channels.toList.map (Channel.settled now) ∧
      ∀ id, id.isAssigned = true → ((r.run s).perform c p).2.isOn id =
        (Channel.lastCall now id r.channels.toList).getD (p.isOn id) := by
  obtain ⟨-, hchannels, hplant⟩ := r.perform_run (c := c) hnow p
  obtain ⟨hsettled, hon⟩ := perform_shared now r.channels.toList p
    fun ch hch ha => hd _ (mem_outputs hch ha)
  exact ⟨hchannels.trans hsettled, fun id hid => by rw [hplant, hon id hid]⟩

theorem Tracked.run {c : SlotId} {r : Schedule} {p : Plant δ} (ht : r.Tracked p)
    (hd : Driven c r p) (s : Situation) :
    ((r.run s).perform c p).1.2.Tracked ((r.run s).perform c p).2 := by
  cases hnow : s.timeOfDay with
  | none =>
    rw [Schedule.run, hnow]
    exact ht
  | some now =>
    obtain ⟨hchannels, hon⟩ := run_shared hd hnow
    intro id hid
    rw [mem_outputs_iff, hchannels] at hid
    obtain ⟨ha, _, hmem, hname⟩ := hid
    obtain ⟨old, hold, rfl⟩ := List.mem_map.mp hmem
    rw [Channel.actuator_settled] at hname
    obtain ⟨ch, hch, hnamed, hwant⟩ :=
      exists_wanting ht now (mem_outputs_iff.mpr ⟨ha, old, hold, hname⟩)
    refine ⟨ch.settled now, ?_, ?_, fun _ _ => ?_⟩
    · rw [hchannels]
      exact List.mem_map_of_mem hch
    · rw [Channel.actuator_settled, hnamed]
    · rw [Channel.actuator_settled, hnamed, hon id ha, hwant, Channel.settled, hnamed, if_pos ha]

/-- A run takes no output away and no driver amiss. -/
theorem Driven.run {c : SlotId} {r : Schedule} {p : Plant δ} (hd : Driven c r p) (s : Situation) :
    Driven c ((r.run s).perform c p).1.2 ((r.run s).perform c p).2 := by
  cases hnow : s.timeOfDay with
  | none =>
    rw [Schedule.run, hnow]
    exact hd
  | some now =>
    intro id hid
    rw [mem_outputs_iff, (run_shared hd hnow).1] at hid
    obtain ⟨ha, _, hmem, hname⟩ := hid
    obtain ⟨ch, hch, rfl⟩ := List.mem_map.mp hmem
    rw [Channel.actuator_settled] at hname
    exact (hd id (mem_outputs_iff.mpr ⟨ha, ch, hch, hname⟩)).perform c (r.run s)

/-- A timer that is changed claims nothing; another one that was right is still there, as no output
was given up that is still shared. -/
theorem Tracked.changeTimer {r : Schedule} {p : Plant δ} {α : Type} {index : Nat}
    {change : Timer → α × Timer} (ht : r.Tracked p)
    (hkeep : ∀ hi : index < timersPerSchedule,
      (change r.channels[index].timer).2.actuator = r.channels[index].timer.actuator ∨
        r.channels[index].timer.actuator.isAssigned = false ∨
        ∀ (j : Nat) (hj : j < timersPerSchedule), j ≠ index →
          r.channels[j].timer.actuator ≠ r.channels[index].timer.actuator) :
    (r.changeTimer index change).2.Tracked p := by
  rw [Schedule.changeTimer]
  split
  · next hi =>
    have hkeep := hkeep hi
    intro id hid
    obtain ⟨ha, ch, hch, hname⟩ := mem_outputs_iff.mp hid
    by_cases hnew : (change r.channels[index].timer).2.actuator = id
    · -- the changed timer has this output
      refine ⟨⟨(change r.channels[index].timer).2, false⟩, ?_, hnew,
        fun _ h => absurd h Bool.false_ne_true⟩
      exact Vector.mem_toList_iff.mpr (Vector.mem_iff_getElem.mpr
        ⟨index, hi, Vector.getElem_set_self hi⟩)
    · -- another timer has it, and had it before
      obtain ⟨j, hj, rfl⟩ := Vector.mem_iff_getElem.mp (Vector.mem_toList_iff.mp hch)
      have hji : index ≠ j := by
        rintro rfl
        rw [Vector.getElem_set_self] at hname
        exact hnew hname
      rw [Vector.getElem_set_ne hi hj hji] at hname
      obtain ⟨right, hright, hnamed, htracks⟩ := ht id (mem_outputs_iff.mpr
        ⟨ha, _, Vector.mem_toList_iff.mpr (Vector.getElem_mem hj), hname⟩)
      obtain ⟨k, hk, rfl⟩ := Vector.mem_iff_getElem.mp (Vector.mem_toList_iff.mp hright)
      have hki : index ≠ k := by
        rintro rfl
        rcases hkeep with hsame | hnone | halone
        · exact hnew (hsame.trans hnamed)
        · rw [hnamed, ha] at hnone
          cases hnone
        · exact halone j hj hji.symm (hname.trans hnamed.symm)
      refine ⟨r.channels[k], ?_, hnamed, htracks⟩
      exact Vector.mem_toList_iff.mpr (Vector.mem_iff_getElem.mpr
        ⟨k, hk, Vector.getElem_set_ne hi hk hki⟩)
  · exact ht

/-- **The invariant of every history.** -/
theorem Served.tracked {c : SlotId} {r : Schedule} {p : Plant δ} (h : Served c r p) :
    r.Tracked p := by
  induction h with
  | fresh p h => exact tracked_of_tracks (StandardRule.tracks_of_not_applied h p)
  | run s _ hd ih => exact ih.run hd s
  | changeTimer index change _ hkeep ih => exact ih.changeTimer hkeep
  | @reset r p _ _ =>
    exact tracked_of_tracks (StandardRule.tracks_of_not_applied r.not_applied_reset p)
  | load _ hload _ =>
    exact tracked_of_tracks (StandardRule.tracks_of_not_applied (not_applied_of_load hload) _)
  | elsewhere _ hsame ih =>
    intro id hid
    obtain ⟨ch, hch, hname, htracks⟩ := ih id hid
    refine ⟨ch, hch, hname, fun ha happlied => ?_⟩
    rw [hname, hsame id hid, ← hname]
    exact htracks ha happlied

/-- **The last command decides.**  After a run that knows the time, each output is on just when the
last of its timers that had a command to give wants it on, and as it was if none had one.  At the
first run after a start, a reset or a restart that is the last of all its timers.  So along every
history an output is on only if one of its timers wants it on, and is on if all of them do; one that
a single timer has is where that timer wants it. -/
theorem last_command_decides {c : SlotId} {r : Schedule} {p : Plant δ} (hist : Served c r p)
    (hd : Driven c r p) {s : Situation} {now : TimeOfDay} (hnow : s.timeOfDay = some now)
    {id : SlotId} (hid : id ∈ r.outputs) :
    ((r.run s).perform c p).1.1 = .ran ∧
    ((r.run s).perform c p).2.isOn id =
      (Channel.lastCall now id r.channels.toList).getD (p.isOn id) ∧
    ((∀ ch ∈ r.channels.toList, ch.applied = false) →
      ∀ ch, (r.channels.toList.filter fun ch => ch.timer.actuator = id).getLast? = some ch →
        ((r.run s).perform c p).2.isOn id = ch.timer.wantsOn now) ∧
    (((r.run s).perform c p).2.isOn id = true →
      ∃ ch ∈ r.channels.toList, ch.timer.actuator = id ∧ ch.timer.wantsOn now = true) ∧
    ((∀ ch ∈ r.channels.toList, ch.timer.actuator = id → ch.timer.wantsOn now = true) →
      ((r.run s).perform c p).2.isOn id = true) := by
  obtain ⟨-, hon⟩ := run_shared hd hnow
  obtain ⟨ch, hch, hname, hwant⟩ := exists_wanting hist.tracked now hid
  rw [hon id (mem_outputs_iff.mp hid).1]
  refine ⟨(r.perform_run hnow p).1, rfl, fun hfresh last hlast => ?_, fun htrue => ?_,
    fun hall => ?_⟩
  · have hcallers : Channel.callers now id r.channels.toList =
        r.channels.toList.filter fun ch => ch.timer.actuator = id := by
      refine List.filter_congr fun ch hch => ?_
      have hdue : ch.due now = true := by
        rw [Channel.due, hfresh ch hch]
        simp
      simp [hdue]
    rw [Channel.lastCall, hcallers, hlast]
    rfl
  · exact ⟨ch, hch, hname, hwant ▸ htrue⟩
  · rw [hwant]
    exact hall ch hch hname

/-- A lamp with two timers, one for weekdays and one for weekends, both from ten to six. -/
def weekly : Schedule :=
  ((default.changeTimer 0 fun t => t.configure ⟨some (.ofNat 0), some 31, [(0, 10, 0, 18, 0)]⟩).2
    |>.changeTimer 1 fun t => t.configure ⟨some (.ofNat 0), some 96, [(0, 10, 0, 18, 0)]⟩).2

theorem served_weekly (p : Plant Relay) : Served (.ofNat 0) weekly p :=
  .fresh p (by decide)

theorem driven_weekly (on : Bool) : Driven (.ofNat 0) weekly (Thermostat.bench on .none) := by
  intro id hid
  have hone : ∀ id ∈ weekly.outputs, id = .ofNat 0 := by decide
  rw [hone id hid]
  exact ⟨_, rfl, rfl, Relay.dependable rfl⟩

/-- **The weekend's timer darkens the Monday.**  Started at noon on a Monday, the timer for weekdays
switches the lamp on and the one for weekends switches it off again. -/
theorem weekend_timer_darkens_monday :
    Served (.ofNat 0) weekly (Thermostat.bench false .none) ∧
    Driven (.ofNat 0) weekly (Thermostat.bench false .none) ∧
    (weekly.run (monday 12)).requests (.ofNat 0) (Thermostat.bench false .none) =
      [.one (.ofNat 0) true true, .one (.ofNat 0) false true] ∧
    (∃ ch ∈ weekly.channels.toList, ch.timer.actuator = .ofNat 0 ∧
      ch.timer.wantsOn ⟨12, 0, 0⟩ = true) ∧
    ((weekly.run (monday 12)).perform (.ofNat 0) (Thermostat.bench false .none)).2.isOn (.ofNat 0) =
      false :=
  ⟨served_weekly _, driven_weekly false, by decide +kernel, by decide +kernel, by decide +kernel⟩

/-- Started in the morning, the same lamp goes on at ten, as only the timer for weekdays then has
something to say. -/
theorem early_start_lights_monday :
    let r := ((weekly.run (monday 9)).perform (.ofNat 0) (Thermostat.bench true .none)).1.2
    let p := ((weekly.run (monday 9)).perform (.ofNat 0) (Thermostat.bench true .none)).2
    Served (.ofNat 0) r p ∧ Driven (.ofNat 0) r p ∧ .ofNat 0 ∈ r.outputs ∧
      p.isOn (.ofNat 0) = false ∧
      Channel.lastCall ⟨10, 0, 0⟩ (.ofNat 0) r.channels.toList = some true ∧
      ((r.run (monday 10)).perform (.ofNat 0) p).2.isOn (.ofNat 0) = true := by
  intro r p
  have hist : Served (.ofNat 0) r p := (served_weekly _).run (monday 9) (driven_weekly true)
  have hd : Driven (.ofNat 0) r p := (driven_weekly true).run (monday 9)
  have hid : SlotId.ofNat 0 ∈ r.outputs := by decide +kernel
  have hcall : Channel.lastCall ⟨10, 0, 0⟩ (.ofNat 0) r.channels.toList = some true := by
    decide +kernel
  obtain ⟨-, hon, -⟩ := last_command_decides hist hd (s := monday 10) rfl hid
  refine ⟨hist, hd, hid, by decide +kernel, hcall, ?_⟩
  rw [hon, hcall]
  rfl

end Schedule

end AquariumControl
