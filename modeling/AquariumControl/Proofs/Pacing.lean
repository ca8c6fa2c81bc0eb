import AquariumControl.Proofs.Delivery

/-!
# How often samples are offered

The scheduler notes when it last tried to send, whether or not there was anything to send and
whatever the uplink answered, and tries again when the interval has passed since then.  As long as
the clock does not go back, the difference modulo `2 ^ 64` that it takes is the true one.

* `Pass` and `Scheduler.pass` — the passes of a main loop, as a scheduler meets them.
* `Scheduler.attempts` and `Scheduler.offered` — when it tries to send, and when it calls the
  uplink.
* `Scheduler.passed_eq` — what the scheduler notes is its last attempt.
* `Scheduler.pairwise_attempts` — attempts are an interval apart.
* `Scheduler.uplink_is_called_once_per_interval` — so are the calls, and none is left out.
-/

set_option autoImplicit false

namespace AquariumControl

/-- A pass of the main loop, as the scheduler meets it.  Since the pass before, the hardware timer
may have ticked, and the aquarium may have become any other. -/
structure Pass (ρ δ σ : Type) where
  tick : TickSignal
  aquarium : Aquarium ρ δ σ
  now : UInt64
  time : Option TimeOfDay
  uplink : Uplink

/-- The samples that wait when the cycle of a pass has been run. -/
def Pass.batch {ρ δ σ : Type} [Rule ρ] [Actuator δ] [Sensor σ] (p : Pass ρ δ σ) : List Sample :=
  (p.aquarium.runCycle p.now p.time).state.telemetry

namespace Scheduler

variable {ρ δ σ : Type}

/-! ## One pass -/

theorem scheduler_flush (s : Scheduler) (a : Aquarium ρ δ σ) (now : UInt64) (uplink : Uplink) :
    (s.flush a now uplink).state.1 = { s with lastFlush := now } := by
  simp only [flush]
  split
  · rfl
  · split <;> rfl

theorem offers_flush (s : Scheduler) (a : Aquarium ρ δ σ) (now : UInt64) (uplink : Uplink) :
    Journal.offers (s.flush a now uplink).journal =
      if a.telemetry = [] then [] else [(a.telemetry, uplink a.telemetry)] := by
  simp only [flush, List.isEmpty_iff]
  split
  · rfl
  · cases uplink a.telemetry <;> rfl

/-- Between two uptimes in their order there is no wrap. -/
theorem flushDue_iff {s : Scheduler} {now : UInt64} (h : s.lastFlush ≤ now) :
    s.flushDue now = true ↔ s.telemetryEnabled = true ∧
      s.lastFlush.toNat + s.telemetryIntervalMs.toNat ≤ now.toNat := by
  have hle := UInt64.le_iff_toNat_le.mp h
  rw [flushDue, Bool.and_eq_true, decide_eq_true_eq, UInt64.le_iff_toNat_le,
    UInt64.toNat_sub_of_le _ _ h]
  exact and_congr_right fun _ => by omega

variable [Rule ρ] [Actuator δ] [Sensor σ]

/-- What a scheduler does in a pass. -/
def pass (s : Scheduler) (p : Pass ρ δ σ) : Outcome (Loop ρ δ σ) (Option CycleReport) :=
  step ⟨s, p.tick, p.aquarium⟩ p.now p.time p.uplink

/-- A scheduler tries to send when it has run a cycle and the interval has passed, also if nothing
waits to be sent. -/
def tries (s : Scheduler) (p : Pass ρ δ σ) : Bool :=
  (poll s.mode p.tick).1 && s.flushDue p.now

theorem isSome_answer_pass (s : Scheduler) (p : Pass ρ δ σ) :
    (s.pass p).answer.isSome = (poll s.mode p.tick).1 := by
  rw [pass]
  cases hdue : (poll s.mode p.tick).1 with
  | true =>
    rw [step_of_due (l := ⟨s, p.tick, p.aquarium⟩) hdue]
    rfl
  | false =>
    rw [step_of_idle (l := ⟨s, p.tick, p.aquarium⟩) hdue]
    rfl

/-- An attempt is noted, and the uplink is called if there are samples. -/
theorem pass_of_tries {s : Scheduler} {p : Pass ρ δ σ} (h : s.tries p = true) :
    (s.pass p).state.scheduler = { s with lastFlush := p.now } ∧
      Journal.offers (s.pass p).journal =
        if p.batch = [] then [] else [(p.batch, p.uplink p.batch)] := by
  obtain ⟨hdue, hflush⟩ := Bool.and_eq_true_iff.mp h
  rw [pass, step_of_due (l := ⟨s, p.tick, p.aquarium⟩) hdue]
  simp only [act, transmit, if_pos hflush, Journal.offers_append, offers_cycleReport,
    Aquarium.offers_runCycle, List.nil_append]
  exact ⟨scheduler_flush .., offers_flush ..⟩

/-- Otherwise nothing is noted and nothing is offered. -/
theorem pass_of_not_tries {s : Scheduler} {p : Pass ρ δ σ} (h : s.tries p = false) :
    (s.pass p).state.scheduler = s ∧ Journal.offers (s.pass p).journal = [] := by
  rw [pass]
  cases hdue : (poll s.mode p.tick).1 with
  | false =>
    rw [step_of_idle (l := ⟨s, p.tick, p.aquarium⟩) hdue]
    exact ⟨rfl, rfl⟩
  | true =>
    have hflush : ¬ s.flushDue p.now = true := by simpa [tries, hdue] using h
    rw [step_of_due (l := ⟨s, p.tick, p.aquarium⟩) hdue]
    simp only [act, transmit, if_neg hflush, Journal.offers_append, offers_cycleReport,
      Aquarium.offers_runCycle, List.nil_append]
    exact ⟨trivial, rfl⟩

/-! ## All passes -/

/-- The scheduler after some passes. -/
def passed (s : Scheduler) (passes : List (Pass ρ δ σ)) : Scheduler :=
  passes.foldl (fun s p => (s.pass p).state.scheduler) s

theorem passed_cons (s : Scheduler) (p : Pass ρ δ σ) (rest : List (Pass ρ δ σ)) :
    s.passed (p :: rest) = (s.pass p).state.scheduler.passed rest := rfl

/-- The uptimes at which a scheduler tries to send. -/
def attempts (s : Scheduler) : List (Pass ρ δ σ) → List UInt64
  | [] => []
  | p :: rest =>
    if s.tries p then p.now :: (s.pass p).state.scheduler.attempts rest
    else (s.pass p).state.scheduler.attempts rest

/-- The uptimes of all offers to the uplink. -/
def offered (s : Scheduler) : List (Pass ρ δ σ) → List UInt64
  | [] => []
  | p :: rest =>
    (Journal.offers (s.pass p).journal).map (fun _ => p.now) ++
      (s.pass p).state.scheduler.offered rest

/-- **The scheduler notes its last attempt**, and keeps its settings. -/
theorem passed_eq (s : Scheduler) (passes : List (Pass ρ δ σ)) :
    s.passed passes = { s with lastFlush := (s.attempts passes).getLast?.getD s.lastFlush } := by
  induction passes generalizing s with
  | nil => rfl
  | cons p rest ih =>
    rw [passed_cons, ih, attempts]
    cases h : s.tries p with
    | true =>
      rw [(pass_of_tries h).1, if_pos rfl, List.getLast?_cons]
      rfl
    | false => rw [(pass_of_not_tries h).1, if_neg Bool.false_ne_true]

/-- Every offer is an attempt, and there is at most one in a pass. -/
theorem offered_sublist (s : Scheduler) (passes : List (Pass ρ δ σ)) :
    (s.offered passes).Sublist (s.attempts passes) := by
  induction passes generalizing s with
  | nil => exact .slnil
  | cons p rest ih =>
    rw [offered, attempts]
    cases h : s.tries p with
    | true =>
      rw [(pass_of_tries h).2, if_pos rfl]
      split
      · exact (ih _).cons p.now
      · exact (ih _).cons_cons p.now
    | false =>
      rw [(pass_of_not_tries h).2, if_neg Bool.false_ne_true]
      exact ih _

/-- **Attempts are an interval apart**, and so are the first one and what was noted before. -/
theorem pairwise_attempts (s : Scheduler) {passes : List (Pass ρ δ σ)}
    (hclock : (passes.map Pass.now).Pairwise (· ≤ ·))
    (hlast : ∀ p ∈ passes, s.lastFlush ≤ p.now) :
    (s.lastFlush.toNat :: (s.attempts passes).map UInt64.toNat).Pairwise
      fun t t' => t + s.telemetryIntervalMs.toNat ≤ t' := by
  induction passes generalizing s with
  | nil => exact List.pairwise_singleton ..
  | cons p rest ih =>
    obtain ⟨hlater, hrest⟩ := List.pairwise_cons.mp hclock
    obtain ⟨hnow, hothers⟩ := List.forall_mem_cons.mp hlast
    rw [attempts]
    cases h : s.tries p with
    | false =>
      rw [(pass_of_not_tries h).1, if_neg Bool.false_ne_true]
      exact ih s hrest hothers
    | true =>
      have hpassed := ((flushDue_iff hnow).mp (Bool.and_eq_true_iff.mp h).2).2
      have hafter := ih { s with lastFlush := p.now } hrest
        fun q hq => hlater q.now (List.mem_map_of_mem hq)
      rw [(pass_of_tries h).1, if_pos rfl, List.map_cons]
      refine List.pairwise_cons.mpr ⟨fun t ht => ?_, hafter⟩
      rcases List.mem_cons.mp ht with rfl | ht
      · exact hpassed
      · have hgap : p.now.toNat + s.telemetryIntervalMs.toNat ≤ t :=
          (List.pairwise_cons.mp hafter).1 t ht
        omega

/-- The last attempt is not later than a pass after it. -/
theorem lastFlush_passed_le {s : Scheduler} {front : List (Pass ρ δ σ)} {now : UInt64}
    (hlast : s.lastFlush ≤ now) (hfront : ∀ p ∈ front, p.now ≤ now) :
    (s.passed front).lastFlush ≤ now := by
  induction front generalizing s with
  | nil => exact hlast
  | cons p rest ih =>
    obtain ⟨hnow, hothers⟩ := List.forall_mem_cons.mp hfront
    rw [passed_cons]
    refine ih ?_ hothers
    cases h : s.tries p with
    | true =>
      rw [(pass_of_tries h).1]
      exact hnow
    | false => rwa [(pass_of_not_tries h).1]

theorem attempts_of_disabled {s : Scheduler} (h : s.telemetryEnabled = false)
    (passes : List (Pass ρ δ σ)) : s.attempts passes = [] := by
  induction passes with
  | nil => rfl
  | cons p rest ih =>
    have hnot : s.tries p = false := by simp [tries, flushDue, h]
    rw [attempts, hnot, if_neg Bool.false_ne_true, (pass_of_not_tries hnot).1, ih]

/-- An interval of seconds in milliseconds does not wrap. -/
theorem toNat_interval_ofConfig (c : SystemConfig) :
    (ofConfig c).telemetryIntervalMs.toNat = 1000 * c.telemetryIntervalSecs.toNat := by
  have hlt := c.telemetryIntervalSecs.toNat_lt
  have hsize : UInt64.size = 2 ^ 64 := rfl
  rw [ofConfig, UInt64.toNat_ofNat_of_lt' (by omega), Nat.mul_comm]

/-- **When a new scheduler tries to send**: in a pass that runs a cycle, if telemetry is enabled and
the interval has passed since its last attempt, or since zero if there was none. -/
theorem tries_passed_iff (c : SystemConfig) {front : List (Pass ρ δ σ)} {p : Pass ρ δ σ}
    (hfront : ∀ q ∈ front, q.now ≤ p.now) :
    ((ofConfig c).passed front).tries p = true ↔
      (((ofConfig c).passed front).pass p).answer.isSome = true ∧ c.telemetryEnabled = true ∧
        (((ofConfig c).attempts front).getLast?.getD 0).toNat +
          1000 * c.telemetryIntervalSecs.toNat ≤ p.now.toNat := by
  have hzero : (ofConfig c).lastFlush ≤ p.now := UInt64.le_iff_toNat_le.mpr (Nat.zero_le _)
  have hstate := (ofConfig c).passed_eq front
  have henabled : ((ofConfig c).passed front).telemetryEnabled = c.telemetryEnabled := by
    rw [hstate]
    rfl
  have hinterval : ((ofConfig c).passed front).telemetryIntervalMs.toNat =
      1000 * c.telemetryIntervalSecs.toNat := by
    rw [hstate]
    exact toNat_interval_ofConfig c
  have hnoted : ((ofConfig c).passed front).lastFlush =
      ((ofConfig c).attempts front).getLast?.getD 0 := by
    rw [hstate]
    rfl
  have horder := lastFlush_passed_le hzero hfront
  rw [tries, Bool.and_eq_true, ← isSome_answer_pass, flushDue_iff horder, henabled, hinterval,
    hnoted]

/-- **The uplink is called at most once per interval, and whenever it is due.**  However the passes
of a main loop come about, as long as its clock does not go back: any two calls of the uplink are at
least the telemetry interval apart, and the first one is that far from zero.  There is none while
telemetry is disabled.  A pass tries to send exactly if it runs a cycle, telemetry is enabled and
the interval has passed since the last attempt, or since zero if there was none; then the samples
that wait are offered, all at once, unless there are none, and otherwise nothing is. -/
theorem uplink_is_called_once_per_interval (c : SystemConfig) (passes : List (Pass ρ δ σ))
    (hclock : (passes.map Pass.now).Pairwise (· ≤ ·)) :
    let s := ofConfig c
    let interval := 1000 * c.telemetryIntervalSecs.toNat
    (0 :: (s.offered passes).map UInt64.toNat).Pairwise (fun t t' => t + interval ≤ t') ∧
      (c.telemetryEnabled = false → s.offered passes = []) ∧
      ∀ front p back, passes = front ++ p :: back →
        let pass := (s.passed front).pass p
        let last := ((s.attempts front).getLast?.getD 0).toNat
        let due := pass.answer.isSome = true ∧ c.telemetryEnabled = true ∧
          last + interval ≤ p.now.toNat
        ((s.passed front).tries p = true ↔ due) ∧
          (due → p.batch ≠ [] →
            Journal.offers pass.journal = [(p.batch, p.uplink p.batch)]) ∧
          (¬ due ∨ p.batch = [] → Journal.offers pass.journal = []) := by
  intro s interval
  have hinterval : s.telemetryIntervalMs.toNat = interval := toNat_interval_ofConfig c
  have hzero : ∀ p : Pass ρ δ σ, s.lastFlush ≤ p.now := fun p =>
    UInt64.le_iff_toNat_le.mpr (Nat.zero_le _)
  refine ⟨?_, fun hdisabled => ?_, fun front p back hsplit => ?_⟩
  · rw [← hinterval]
    exact (s.pairwise_attempts hclock fun p _ => hzero p).sublist
      (((s.offered_sublist passes).map _).cons_cons 0)
  · exact List.sublist_nil.mp (s.attempts_of_disabled hdisabled passes ▸ s.offered_sublist passes)
  · intro pass last due
    have hfront : ∀ q ∈ front, q.now ≤ p.now := by
      intro q hq
      rw [hsplit, List.map_append, List.pairwise_append] at hclock
      exact hclock.2.2 q.now (List.mem_map_of_mem hq) p.now (List.mem_map_of_mem List.mem_cons_self)
    have hdue : (s.passed front).tries p = true ↔ due := tries_passed_iff c hfront
    refine ⟨hdue, fun h hbatch => ?_, fun h => ?_⟩
    · rw [(pass_of_tries (hdue.mpr h)).2, if_neg hbatch]
    · cases htries : (s.passed front).tries p with
      | false => exact (pass_of_not_tries htries).2
      | true =>
        rcases h with h | h
        · exact absurd (hdue.mp htries) h
        · rw [(pass_of_tries htries).2, if_pos h]

/-- Samples are to be sent every five seconds. -/
def eager : SystemConfig :=
  { SystemConfig.default with telemetryEnabled := true, telemetryIntervalSecs := 5 }

/-- A pass with one sensor that gives a reading, after a tick. -/
def sampled (now : UInt64) (answer : Except TelemetryError Unit) : Pass AnyRule Relay Probe :=
  ⟨.raised, (Aquarium.empty.addSensor "steady" ⟨.ok Binary64.one⟩).state, now, none,
    fun _ => answer⟩

/-- The second pass runs no cycle, and in the third one there is nothing to send. -/
def early : List (Pass AnyRule Relay Probe) :=
  [sampled 1000 (.ok ()), { sampled 6000 (.ok ()) with tick := .idle },
    { sampled 7000 (.ok ()) with aquarium := Aquarium.empty }, sampled 9000 (.ok ())]

/-- The uplink is offline at first. -/
def late : List (Pass AnyRule Relay Probe) :=
  [sampled 16999 (.ok ()), sampled 17000 (.ok ())]

/-- The attempt with nothing to send counts, and so does the one that the uplink refuses. -/
theorem refused_call_counts :
    ((early ++ sampled 12000 (.error .offline) :: late).map Pass.now).Pairwise (· ≤ ·) ∧
      (ofConfig eager).offered (early ++ sampled 12000 (.error .offline) :: late) =
        [12000, 17000] ∧
      [0, 12000, 17000].Pairwise (fun t t' => t + 5000 ≤ t') ∧
      Journal.offers
          (((ofConfig eager).passed early).pass (sampled 12000 (.error .offline))).journal =
        [([⟨.ofNat 0, .one, 12000⟩], .error .offline)] := by
  have hclock :
      ((early ++ sampled 12000 (.error .offline) :: late).map Pass.now).Pairwise (· ≤ ·) := by
    decide
  have hoffered : (ofConfig eager).offered (early ++ sampled 12000 (.error .offline) :: late) =
      [12000, 17000] := by
    decide +kernel
  obtain ⟨hgaps, -, hpasses⟩ := uplink_is_called_once_per_interval eager
    (early ++ sampled 12000 (.error .offline) :: late) hclock
  obtain ⟨-, hoffers, -⟩ := hpasses early (sampled 12000 (.error .offline)) late rfl
  have hbatch : (sampled 12000 (.error .offline)).batch = [⟨.ofNat 0, .one, 12000⟩] := by
    decide +kernel
  rw [hoffered] at hgaps
  refine ⟨hclock, hoffered, hgaps, (hoffers ?_ ?_).trans ?_⟩
  · decide +kernel
  · rw [hbatch]
    exact List.cons_ne_nil _ _
  · rw [hbatch]
    rfl

end Scheduler

end AquariumControl
