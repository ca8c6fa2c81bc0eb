import AquariumControl.Bench.Probe
import AquariumControl.Bench.Relay
import AquariumControl.Bench.Script
import AquariumControl.Bench.UplinkMode

/-!
# The main loop

What happens around the scheduler: the hardware timer ticks, the loop makes its passes, samples are
sent on demand, and objects come, go and change.  A history is any sequence of these, and every turn
of it leaves a report, a journal and an aquarium.

* `Loop.turns` — the turns of a history.
* `Loop.pending_run_iff` — when a tick is waiting.
* `Scheduler.RunsCycle` — what a turn that runs a cycle leaves.
* `Loop.Mirrors` — a loop in timer mode and one in polling mode that are otherwise in the same
  state; a pass after a tick keeps them so, and an idle pass needs no counterpart.
* `Loop.timer_decides_like_polling` — the two modes make the same decisions.
-/

set_option autoImplicit false

namespace AquariumControl

/-! ## Histories -/

/-- What is done to an aquarium between two passes: objects come, go and are assigned, sensors
answer differently, outputs fail.  The samples that wait are left alone. -/
structure Change (ρ δ σ : Type) where
  apply : Aquarium ρ δ σ → Aquarium ρ δ σ
  telemetry_apply : ∀ a, (apply a).telemetry = a.telemetry

namespace Change

variable {ρ δ σ : Type}

/-- A sensor is added. -/
def addSensor (name : String) (device : σ) : Change ρ δ σ where
  apply a := (a.addSensor name device).state
  telemetry_apply a := by rw [Aquarium.addSensor]; split <;> rfl

/-- A sensor is removed. -/
def removeSensor (id : SlotId) : Change ρ δ σ where
  apply a := (a.removeSensor id).state
  telemetry_apply a := by rw [Aquarium.removeSensor]; split <;> rfl

/-- A sensor answers differently from now on. -/
def turnSensor (id : SlotId) (device : σ) : Change ρ δ σ where
  apply a := { a with sensors := a.sensors.modify id fun s => { s with device := device } }
  telemetry_apply _ := rfl

end Change

/-- What can happen to a main loop. -/
inductive Happening (ρ δ σ : Type)
  /-- The hardware timer ticks. -/
  | tick
  /-- The loop makes a pass, at this uptime and time, with an uplink that answers like this. -/
  | pass (now : UInt64) (time : Option TimeOfDay) (uplink : Uplink)
  /-- The waiting samples are offered at once. -/
  | flush (now : UInt64) (uplink : Uplink)
  | change (c : Change ρ δ σ)

def Happening.isPass {ρ δ σ : Type} : Happening ρ δ σ → Bool
  | .pass _ _ _ => true
  | _ => false

/-- What happened, what came of it, and the aquarium afterwards. -/
structure Turn (ρ δ σ : Type) where
  happening : Happening ρ δ σ
  report : Option CycleReport
  journal : Journal
  aquarium : Aquarium ρ δ σ

/-- Ticks only set the signal, and a pass without a cycle does nothing; everything else acts. -/
def Turn.acts {ρ δ σ : Type} (t : Turn ρ δ σ) : Bool :=
  match t.happening with
  | .tick => false
  | .pass _ _ _ => t.report.isSome
  | .flush _ _ => true
  | .change _ => true

/-- The aquarium that the last turn has left, or the one that there was at first. -/
def latest {ρ δ σ : Type} (turns : List (Turn ρ δ σ)) (first : Aquarium ρ δ σ) : Aquarium ρ δ σ :=
  (turns.getLast?.map Turn.aquarium).getD first

/-- There was a tick, and no cycle has been run since. -/
def Ticked {ρ δ σ : Type} (turns : List (Turn ρ δ σ)) : Prop :=
  ∃ early t late, turns = early ++ t :: late ∧ t.happening = .tick ∧ ∀ u ∈ late, u.report = none

theorem ticked_cons {ρ δ σ : Type} {t : Turn ρ δ σ} {turns : List (Turn ρ δ σ)} :
    Ticked (t :: turns) ↔
      (t.happening = .tick ∧ ∀ u ∈ turns, u.report = none) ∨ Ticked turns := by
  constructor
  · rintro ⟨early, u, late, hturns, htick, hlate⟩
    cases early with
    | nil =>
      obtain ⟨rfl, rfl⟩ := List.cons.inj hturns
      exact .inl ⟨htick, hlate⟩
    | cons first early => exact .inr ⟨early, u, late, (List.cons.inj hturns).2, htick, hlate⟩
  · rintro (⟨htick, hturns⟩ | ⟨early, u, late, rfl, htick, hlate⟩)
    · exact ⟨[], t, turns, rfl, htick, hturns⟩
    · exact ⟨t :: early, u, late, rfl, htick, hlate⟩

namespace Scheduler

variable {ρ δ σ : Type}

/-- Sending samples has nothing to do with the mode. -/
theorem flush_mode (s : Scheduler) (mode : SchedulingMode) (a : Aquarium ρ δ σ) (now : UInt64)
    (uplink : Uplink) :
    { s with mode := mode }.flush a now uplink =
      ⟨(), ({ (s.flush a now uplink).state.1 with mode := mode }, (s.flush a now uplink).state.2),
        (s.flush a now uplink).journal⟩ := by
  simp only [flush]
  split
  · rfl
  · split <;> rfl

theorem mode_flush (s : Scheduler) (a : Aquarium ρ δ σ) (now : UInt64) (uplink : Uplink) :
    (s.flush a now uplink).state.1.mode = s.mode := by
  simp only [flush]
  split
  · rfl
  · split <;> rfl

/-- Offers the waiting samples if the interval has passed. -/
def transmit (s : Scheduler) (a : Aquarium ρ δ σ) (now : UInt64) (uplink : Uplink) :
    Outcome (Scheduler × Aquarium ρ δ σ) Unit :=
  if s.flushDue now then s.flush a now uplink else ⟨(), (s, a), []⟩

variable [Rule ρ] [Actuator δ] [Sensor σ]

/-- **A turn that runs a cycle** on an aquarium: it is a pass, the report is that of the cycle, the
failures and the switches in it are events, and the waiting samples are offered afterwards if the
interval has passed.  Nothing else is reported, and nothing else is done to the aquarium. -/
structure RunsCycle (s : Scheduler) (a : Aquarium ρ δ σ) (now : UInt64) (time : Option TimeOfDay)
    (uplink : Uplink) (t : Turn ρ δ σ) : Prop where
  happening : t.happening = .pass now time uplink
  report : t.report = some (a.runCycle now time).answer
  journal : t.journal =
    (a.runCycle now time).journal ++
      (.notice (.cycleFinished (a.runCycle now time).answer.counts) ::
        (((a.runCycle now time).answer.failures.map fun f =>
            .event (.sensorReadFailed f.1 f.2)) ++
          (a.runCycle now time).answer.switches.map fun switch =>
            .event (.actuatorSwitched switch))) ++
      (s.transmit (a.runCycle now time).state now uplink).journal
  aquarium : t.aquarium = (s.transmit (a.runCycle now time).state now uplink).state.2

/-- A cycle and the transmission after it: what a pass does when a cycle is due. -/
def act (s : Scheduler) (a : Aquarium ρ δ σ) (now : UInt64) (time : Option TimeOfDay)
    (uplink : Uplink) : Outcome (Scheduler × Aquarium ρ δ σ) CycleReport :=
  let cycle := a.runCycle now time
  let sent := s.transmit cycle.state now uplink
  ⟨cycle.answer, sent.state, cycle.journal ++ cycleReport cycle.answer ++ sent.journal⟩

theorem step_of_due {l : Loop ρ δ σ} (hdue : (poll l.scheduler.mode l.tick).1 = true)
    (now : UInt64) (time : Option TimeOfDay) (uplink : Uplink) :
    step l now time uplink =
      let acted := l.scheduler.act l.aquarium now time uplink
      ⟨some acted.answer, ⟨acted.state.1, (poll l.scheduler.mode l.tick).2, acted.state.2⟩,
        acted.journal⟩ := by
  simp only [step, act, transmit, hdue, if_true]
  by_cases hflush : l.scheduler.flushDue now = true
  · simp only [if_pos hflush]
  · simp only [if_neg hflush, List.append_nil]

theorem step_of_idle {l : Loop ρ δ σ} (hidle : (poll l.scheduler.mode l.tick).1 = false)
    (now : UInt64) (time : Option TimeOfDay) (uplink : Uplink) :
    step l now time uplink = ⟨none, { l with tick := (poll l.scheduler.mode l.tick).2 }, []⟩ := by
  simp only [step, hidle]
  rfl

theorem poll_timer {mode : SchedulingMode} (hmode : mode = .timer) (tick : TickSignal) :
    poll mode tick = (tick.pending, .idle) := by
  rw [hmode]
  rfl

theorem poll_polling {mode : SchedulingMode} (hmode : mode = .polling) (tick : TickSignal) :
    poll mode tick = (true, tick) := by
  rw [hmode]
  rfl

theorem act_mode (s : Scheduler) (mode : SchedulingMode) (a : Aquarium ρ δ σ) (now : UInt64)
    (time : Option TimeOfDay) (uplink : Uplink) :
    { s with mode := mode }.act a now time uplink =
      ⟨(s.act a now time uplink).answer,
        ({ (s.act a now time uplink).state.1 with mode := mode },
          (s.act a now time uplink).state.2),
        (s.act a now time uplink).journal⟩ := by
  -- the interval does not depend on the mode either
  have hdue : { s with mode := mode }.flushDue now = s.flushDue now := rfl
  simp only [act, transmit, hdue, flush_mode]
  split <;> rfl

theorem mode_act (s : Scheduler) (a : Aquarium ρ δ σ) (now : UInt64) (time : Option TimeOfDay)
    (uplink : Uplink) : (s.act a now time uplink).state.1.mode = s.mode := by
  simp only [act, transmit]
  split
  · exact mode_flush ..
  · rfl

end Scheduler

namespace Loop

variable {ρ δ σ : Type} [Rule ρ] [Actuator δ] [Sensor σ]

/-- What a happening does to a loop. -/
def after (l : Loop ρ δ σ) : Happening ρ δ σ → Outcome (Loop ρ δ σ) (Option CycleReport)
  | .tick => ⟨none, { l with tick := .raised }, []⟩
  | .pass now time uplink => Scheduler.step l now time uplink
  | .flush now uplink =>
    let flushed := l.scheduler.flush l.aquarium now uplink
    ⟨none, ⟨flushed.state.1, l.tick, flushed.state.2⟩, flushed.journal⟩
  | .change c => ⟨none, { l with aquarium := c.apply l.aquarium }, []⟩

/-- One turn of a loop. -/
def turn (l : Loop ρ δ σ) (h : Happening ρ δ σ) : Turn ρ δ σ :=
  ⟨h, (l.after h).answer, (l.after h).journal, (l.after h).state.aquarium⟩

/-- The turns of a history. -/
def turns (l : Loop ρ δ σ) : List (Happening ρ δ σ) → List (Turn ρ δ σ)
  | [] => []
  | h :: rest => l.turn h :: (l.after h).state.turns rest

/-- The loop after a history. -/
def run (l : Loop ρ δ σ) (history : List (Happening ρ δ σ)) : Loop ρ δ σ :=
  history.foldl (fun l h => (l.after h).state) l

/-- A turn of a history, and what went before it. -/
theorem turns_split {l : Loop ρ δ σ} {history : List (Happening ρ δ σ)}
    {before : List (Turn ρ δ σ)} {t : Turn ρ δ σ} {later : List (Turn ρ δ σ)}
    (h : l.turns history = before ++ t :: later) :
    ∃ front x back, history = front ++ x :: back ∧ before = l.turns front ∧
      t = (l.run front).turn x := by
  induction before generalizing l history with
  | nil =>
    cases history with
    | nil => cases h
    | cons x back => exact ⟨[], x, back, rfl, rfl, (List.cons.inj h).1.symm⟩
  | cons first before ih =>
    cases history with
    | nil => cases h
    | cons y rest =>
      obtain ⟨rfl, hrest⟩ := List.cons.inj h
      obtain ⟨front, x, back, rfl, rfl, rfl⟩ := ih hrest
      exact ⟨y :: front, x, back, rfl, rfl, rfl⟩

theorem length_turns (l : Loop ρ δ σ) (history : List (Happening ρ δ σ)) :
    (l.turns history).length = history.length := by
  induction history generalizing l with
  | nil => rfl
  | cons x rest ih => exact congrArg (· + 1) (ih _)

/-- The loop goes on with the aquarium that the last turn has left. -/
theorem latest_turns (l : Loop ρ δ σ) (history : List (Happening ρ δ σ)) :
    latest (l.turns history) l.aquarium = (l.run history).aquarium := by
  induction history generalizing l with
  | nil => rfl
  | cons x rest ih =>
    have hrest := ih (l.after x).state
    rw [latest] at hrest ⊢
    rw [turns, List.getLast?_cons, Option.map_some, Option.getD_some]
    refine Eq.trans ?_ hrest
    cases ((l.after x).state.turns rest).getLast? <;> rfl

/-! ## Ticks -/

/-- Only a tick or a cycle changes the signal in timer mode. -/
theorem pending_after_iff {l : Loop ρ δ σ} (hmode : l.scheduler.mode = .timer)
    (x : Happening ρ δ σ) :
    (l.after x).state.tick.pending = true ↔
      x = .tick ∨ l.tick.pending = true ∧ (l.turn x).report = none := by
  cases x with
  | tick => simp [after, TickSignal.raised]
  | flush now uplink => simp [after, turn]
  | change c => simp [after, turn]
  | pass now time uplink =>
    have hpoll := Scheduler.poll_timer hmode l.tick
    simp only [turn, after]
    cases hpending : l.tick.pending with
    | false =>
      rw [Scheduler.step_of_idle (by rw [hpoll, hpending]), hpoll]
      simp [TickSignal.idle]
    | true =>
      rw [Scheduler.step_of_due (by rw [hpoll, hpending]), hpoll]
      simp [TickSignal.idle]

theorem mode_after (l : Loop ρ δ σ) (x : Happening ρ δ σ) :
    (l.after x).state.scheduler.mode = l.scheduler.mode := by
  cases x with
  | tick => rfl
  | flush now uplink => exact Scheduler.mode_flush ..
  | change c => rfl
  | pass now time uplink =>
    rw [after]
    cases hdue : (Scheduler.poll l.scheduler.mode l.tick).1 with
    | false => rw [Scheduler.step_of_idle hdue]
    | true =>
      rw [Scheduler.step_of_due hdue]
      exact Scheduler.mode_act ..

theorem mode_run (l : Loop ρ δ σ) (history : List (Happening ρ δ σ)) :
    (l.run history).scheduler.mode = l.scheduler.mode := by
  induction history generalizing l with
  | nil => rfl
  | cons x rest ih => exact (ih _).trans (l.mode_after x)

/-- A tick is waiting if it was from the start and no cycle has been run, or if there was one and
no cycle has been run since. -/
theorem pending_run_iff {l : Loop ρ δ σ} (hmode : l.scheduler.mode = .timer)
    (history : List (Happening ρ δ σ)) :
    (l.run history).tick.pending = true ↔
      (l.tick.pending = true ∧ ∀ u ∈ l.turns history, u.report = none) ∨
        Ticked (l.turns history) := by
  induction history generalizing l with
  | nil => simp [run, turns, Ticked]
  | cons x rest ih =>
    have hrest := ih (l := (l.after x).state) ((l.mode_after x).trans hmode)
    rw [turns, ticked_cons, List.forall_mem_cons]
    refine hrest.trans ?_
    rw [pending_after_iff hmode, show (l.turn x).happening = x from rfl]
    grind

/-- In timer mode a pass runs a cycle exactly if a tick is waiting, and nothing else runs one. -/
theorem isSome_report_turn_iff {l : Loop ρ δ σ} (hmode : l.scheduler.mode = .timer)
    (x : Happening ρ δ σ) :
    (l.turn x).report.isSome = true ↔ x.isPass = true ∧ l.tick.pending = true := by
  cases x with
  | tick => simp [turn, after, Happening.isPass]
  | flush now uplink => simp [turn, after, Happening.isPass]
  | change c => simp [turn, after, Happening.isPass]
  | pass now time uplink =>
    have hpoll := Scheduler.poll_timer hmode l.tick
    simp only [turn, after, Happening.isPass]
    cases hpending : l.tick.pending with
    | false =>
      rw [Scheduler.step_of_idle (by rw [hpoll, hpending])]
      simp
    | true =>
      rw [Scheduler.step_of_due (by rw [hpoll, hpending])]
      simp

/-- **A turn with a report runs a cycle** on the aquarium before it. -/
theorem runsCycle_turn {l : Loop ρ δ σ} {x : Happening ρ δ σ}
    (h : (l.turn x).report.isSome = true) :
    ∃ now time uplink, l.scheduler.RunsCycle l.aquarium now time uplink (l.turn x) := by
  cases x with
  | tick => cases h
  | flush now uplink => cases h
  | change c => cases h
  | pass now time uplink =>
    simp only [turn, after] at h ⊢
    cases hdue : (Scheduler.poll l.scheduler.mode l.tick).1 with
    | false =>
      rw [Scheduler.step_of_idle hdue] at h
      cases h
    | true =>
      rw [Scheduler.step_of_due hdue]
      exact ⟨now, time, uplink, rfl, rfl, rfl, rfl⟩

/-! ## Two modes -/

/-- A turn in which a loop does not act leaves nothing behind but the signal. -/
theorem idle_turn {l : Loop ρ δ σ} {x : Happening ρ δ σ} (h : (l.turn x).acts = false) :
    (l.turn x).report = none ∧ (l.turn x).journal = [] ∧
      (l.after x).state = { l with tick := (l.after x).state.tick } := by
  cases x with
  | tick => exact ⟨rfl, rfl, rfl⟩
  | flush now uplink => cases h
  | change c => cases h
  | pass now time uplink =>
    simp only [Turn.acts, turn, after] at h ⊢
    cases hdue : (Scheduler.poll l.scheduler.mode l.tick).1 with
    | false =>
      rw [Scheduler.step_of_idle hdue]
      exact ⟨rfl, rfl, rfl⟩
    | true =>
      rw [Scheduler.step_of_due hdue] at h
      cases h

/-- A loop in timer mode and one in polling mode that are otherwise in the same state. -/
structure Mirrors (timed polled : Loop ρ δ σ) : Prop where
  scheduler : timed.scheduler = { polled.scheduler with mode := .timer }
  polling : polled.scheduler.mode = .polling
  aquarium : timed.aquarium = polled.aquarium

/-- Where one loop acts, the other does the same. -/
theorem Mirrors.acts {l p : Loop ρ δ σ} (h : l.Mirrors p) {x : Happening ρ δ σ}
    (hacts : (l.turn x).acts = true) :
    p.turn x = l.turn x ∧ (l.after x).state.Mirrors (p.after x).state := by
  cases x with
  | tick => cases hacts
  | flush now uplink =>
    have hflush := p.scheduler.flush_mode .timer p.aquarium now uplink
    rw [← h.scheduler] at hflush
    simp only [turn, after, h.aquarium, hflush]
    exact ⟨trivial, rfl, (Scheduler.mode_flush ..).trans h.polling, rfl⟩
  | change c =>
    simp only [turn, after, h.aquarium]
    exact ⟨trivial, h.scheduler, h.polling, rfl⟩
  | pass now time uplink =>
    have hact := p.scheduler.act_mode .timer p.aquarium now time uplink
    rw [← h.scheduler] at hact
    have hpoll := Scheduler.poll_timer (congrArg Scheduler.mode h.scheduler) l.tick
    have hpolled := Scheduler.step_of_due (l := p) (by rw [Scheduler.poll_polling h.polling]) now
      time uplink
    simp only [Turn.acts, turn, after] at hacts ⊢
    cases hpending : l.tick.pending with
    | false =>
      rw [Scheduler.step_of_idle (by rw [hpoll, hpending])] at hacts
      cases hacts
    | true =>
      have htimed := Scheduler.step_of_due (l := l) (by rw [hpoll, hpending]) now time uplink
      simp only [h.aquarium, hact] at htimed
      rw [htimed, hpolled]
      exact ⟨rfl, rfl, (Scheduler.mode_act ..).trans h.polling, rfl⟩

/-- Where it does not act, the other does not have to do anything. -/
theorem Mirrors.idle {l p : Loop ρ δ σ} (h : l.Mirrors p) {x : Happening ρ δ σ}
    (hidle : (l.turn x).acts = false) : (l.after x).state.Mirrors p := by
  rw [(idle_turn hidle).2.2]
  exact ⟨h.scheduler, h.polling, h.aquarium⟩

/-- **A loop in polling mode that makes only the turns in which the other acts makes the same
turns.** -/
theorem Mirrors.turns {l p : Loop ρ δ σ} (h : l.Mirrors p) (history : List (Happening ρ δ σ)) :
    p.turns (((l.turns history).filter Turn.acts).map Turn.happening) =
        (l.turns history).filter Turn.acts ∧
      (l.run history).Mirrors
        (p.run (((l.turns history).filter Turn.acts).map Turn.happening)) := by
  induction history generalizing l p with
  | nil => exact ⟨rfl, h⟩
  | cons x rest ih =>
    rw [Loop.turns]
    by_cases hacts : (l.turn x).acts = true
    · obtain ⟨hturn, hafter⟩ := h.acts hacts
      obtain ⟨hturns, hrun⟩ := ih hafter
      rw [List.filter_cons_of_pos hacts, List.map_cons, Loop.turns]
      exact ⟨(congrArg (List.cons · _) hturn).trans (congrArg (List.cons _) hturns), hrun⟩
    · rw [List.filter_cons_of_neg hacts]
      exact ih (h.idle (Bool.eq_false_iff.mpr hacts))

/-- **Timer mode decides like polling mode.**  In timer mode a cycle is run in exactly those passes
before which there was a tick since the last cycle, however many: on the aquarium that the turn
before has left, with the clock and the uplink of the pass.  Ticks and the other passes report
nothing and leave the aquarium as it is.  A loop in polling mode that leaves these out, with the
same clock, uplink and changes to the aquarium, makes the same turns: the same reports, the same
events and offers, the same aquariums.  Both end in the same state, the time of the last
transmission included. -/
theorem timer_decides_like_polling (s : Scheduler) (a : Aquarium ρ δ σ)
    (history : List (Happening ρ δ σ)) :
    let timed : Loop ρ δ σ := ⟨{ s with mode := .timer }, .idle, a⟩
    let polled : Loop ρ δ σ := ⟨{ s with mode := .polling }, .idle, a⟩
    let turns := timed.turns history
    let acting := turns.filter Turn.acts
    (∀ before t later, turns = before ++ t :: later →
      (t.report.isSome = true ↔ t.happening.isPass = true ∧ Ticked before) ∧
        (t.report.isSome = true → ∃ now time uplink,
          (timed.run (history.take before.length)).scheduler.RunsCycle (latest before a) now time
            uplink t) ∧
        (t.acts = false → t.report = none ∧ t.journal = [] ∧ t.aquarium = latest before a)) ∧
      polled.turns (acting.map Turn.happening) = acting ∧
      (timed.run history).aquarium = (polled.run (acting.map Turn.happening)).aquarium ∧
      (timed.run history).scheduler =
        { (polled.run (acting.map Turn.happening)).scheduler with mode := .timer } := by
  intro timed polled turns acting
  have hmirrors : timed.Mirrors polled := ⟨rfl, rfl, rfl⟩
  obtain ⟨hturns, hrun⟩ := hmirrors.turns history
  refine ⟨?_, hturns, hrun.aquarium, hrun.scheduler⟩
  intro before t later hsplit
  obtain ⟨front, x, back, hhistory, rfl, rfl⟩ := turns_split hsplit
  have hlatest : latest (timed.turns front) a = (timed.run front).aquarium :=
    timed.latest_turns front
  refine ⟨?_, fun hreport => ?_, fun hidle => ?_⟩
  · have hpending := pending_run_iff (l := timed) rfl front
    rw [or_iff_right fun h => Bool.false_ne_true h.1] at hpending
    rw [isSome_report_turn_iff (timed.mode_run front), hpending]
    rfl
  · rw [hlatest, length_turns, hhistory, List.take_left]
    exact runsCycle_turn hreport
  · obtain ⟨hreport, hjournal, hstate⟩ := idle_turn hidle
    refine ⟨hreport, hjournal, ?_⟩
    rw [hlatest, turn, hstate]

/-- A probe at a steady temperature. -/
def steady : Aquarium Script Relay Probe :=
  (Aquarium.empty.addSensor "probe" ⟨.ok .one⟩).state

/-- The loop passes before the first tick, after two ticks with the uplink offline, and again before
the next tick; after that the probe fails. -/
def drizzle : List (Happening Script Relay Probe) :=
  [.pass 5 none fun _ => .ok (), .tick, .tick, .pass 1000 none fun _ => .error .offline,
    .pass 1010 none fun _ => .ok (), .tick, .change (.turnSensor (.ofNat 0) .silent),
    .pass 2500 none fun _ => .ok ()]

/-- Two ticks make one cycle, and a pass before the next tick makes none.  The polling loop runs the
same two cycles, and the sample that was kept in the first of them arrives in the second. -/
theorem two_ticks_make_one_cycle :
    let timed : Loop Script Relay Probe := ⟨⟨.timer, true, 1000, 0⟩, .idle, steady⟩
    let polled : Loop Script Relay Probe := ⟨⟨.polling, true, 1000, 0⟩, .idle, steady⟩
    let acting := (timed.turns drizzle).filter Turn.acts
    (timed.turns drizzle).map (fun t => t.report.map CycleReport.cycle) =
        [none, none, none, some 1, none, none, none, some 2] ∧
      ((timed.turns drizzle)[3]?.bind Turn.report) = some (steady.runCycle 1000 none).answer ∧
      (polled.turns (acting.map Turn.happening)).map (fun t => t.report.map CycleReport.cycle) =
        [some 1, none, some 2] ∧
      ((polled.turns (acting.map Turn.happening)).map fun t => Journal.accepted t.journal) =
        [[], [], [[⟨.ofNat 0, .one, 1000⟩]]] := by
  intro timed polled acting
  obtain ⟨hturns, hpolled, -, -⟩ :=
    timer_decides_like_polling ⟨.timer, true, 1000, 0⟩ steady drizzle
  obtain ⟨-, hcycle, -⟩ := hturns ((timed.turns drizzle).take 3) _ _ rfl
  obtain ⟨now, time, uplink, hruns⟩ := hcycle rfl
  obtain ⟨rfl, rfl, -⟩ := Happening.pass.inj hruns.happening
  refine ⟨by decide +kernel, hruns.report, ?_, ?_⟩
  · rw [hpolled]
    decide +kernel
  · rw [hpolled]
    decide +kernel

end Loop

end AquariumControl
