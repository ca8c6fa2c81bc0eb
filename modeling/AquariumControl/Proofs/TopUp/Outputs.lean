import AquariumControl.Bench.Rig
import AquariumControl.Proofs.Group
import AquariumControl.Proofs.TopUp

/-!
# What a top-up rule does to its group

Most evaluations of a top-up rule command nothing: the pumps are left where an earlier evaluation
put them.  So what the outputs show depends on the whole history, and on what the drivers made of
the few commands there were.

* `LevelState.pumps` and `LevelState.level?` — whether the pumps are to run after an evaluation
  that ended in a state, and what a later evaluation that starts in it may rely on.  The two differ
  in `ok` only: a reset leads there in mid-refill and commands nothing.
* `TopUp.or_level?` — the table of the state machine against its commands: the level commanded
  or, without a command, the level relied on, is the one that the next state asks for.
* `TopUp.Undisturbed` — histories in which only the rule moves its group.
* `TopUp.run_outcome` and `TopUp.run_or_quiet` — the two case distinctions that the inductions over
  histories rest on: what a run can do, and what can come next at all.
* `TopUp.level_held` and `TopUp.stop_held` — the two invariants: the group is at the level that the
  state relies on, if the drivers work; and whatever they do, a stopped group is as the run that
  timed out has left it.
-/

set_option autoImplicit false

namespace AquariumControl

/-! ## States and levels -/

/-- Whether the pumps are to run once an evaluation has ended in this state. -/
def LevelState.pumps : LevelState → Bool
  | .refill => true
  | .overrun => true
  | _ => false

/-- The level that an evaluation which starts in this state relies on. -/
def LevelState.level? : LevelState → Option Bool
  | .ok => none
  | .debounce => some false
  | .refill => some true
  | .overrun => some true
  | .timedOut => some false

theorem LevelState.pumps_of_level? {s : LevelState} {on : Bool} (h : s.level? = some on) :
    s.pumps = on := by
  cases s <;> cases h <;> rfl

theorem LevelState.pumps_iff {s : LevelState} : s.pumps = true ↔ s = .refill ∨ s = .overrun := by
  cases s <;> simp [pumps]

namespace Plant

variable {δ : Type} [Actuator δ]

/-- All outputs of a controller's group are at one level. -/
def GroupAt (p : Plant δ) (controller : SlotId) (on : Bool) : Prop :=
  ∀ id ∈ p.actuators.assignedIds controller, p.isOn id = on

theorem SameGroup.groupAt {controller : SlotId} {p q : Plant δ} (h : SameGroup controller p q)
    {on : Bool} (hp : p.GroupAt controller on) : q.GroupAt controller on := by
  intro id hid
  rw [h.1] at hid
  exact (h.2 id hid).trans (hp id hid)

end Plant

namespace TopUp

variable {δ : Type} [Actuator δ]

/-! ## One evaluation -/

/-- **Commands against states**: the level that an evaluation commands, or else the level that it
relied on, is the level that the next state asks for. -/
theorem or_level? (r : TopUp) (high : Bool) (now : UInt64) :
    (r.order? high now).or r.state.level? = some (r.next high now).state.pumps := by
  rw [order?, next]
  cases hstate : r.state <;> dsimp only
  · cases high <;> simp [LevelState.pumps, hstate]
  · cases high <;> cases exceeds r.since now r.delayHigh <;>
      simp [LevelState.pumps, LevelState.level?, hstate]
  · cases high <;> cases exceeds r.since now r.timeout <;>
      simp [LevelState.pumps, LevelState.level?, hstate]
  · cases high <;> cases exceeds r.since now r.delayLow <;>
      simp [LevelState.pumps, LevelState.level?, hstate]
  · simp [LevelState.pumps, LevelState.level?, hstate]

/-- An evaluation does to the plant what its command does, if it gives one. -/
theorem get?_perform_step (r : TopUp) (high : Bool) (now : UInt64) (c : SlotId) (p : Plant δ)
    (j : SlotId) : ((r.step high now).perform c p).2.actuators.get? j =
      match r.order? high now with
      | some on => (p.switchAll c on).2.actuators.get? j
      | none => p.actuators.get? j := by
  rw [step, order?]
  cases r.state <;> dsimp only
  · simp
  · cases high
    · rfl
    · cases exceeds r.since now r.delayHigh <;> simp
  · cases high
    · rfl
    -- the log line before the command is no actuator
    · cases exceeds r.since now r.timeout
      · rfl
      · simp only [Bool.not_true, Bool.false_eq_true, if_false, if_true, Bool.and_self,
          Command.perform_bind, Command.perform_switchAll, Command.perform_pure,
          Plant.get?_switchAll]
        rfl
  · cases high
    · cases exceeds r.since now r.delayLow <;> simp
    · rfl
  · rfl

/-- The plant that a run of controller `c` on an occasion leaves behind. -/
def plantOn (r : TopUp) (c : SlotId) (o : Occasion δ) : Plant δ :=
  ((r.run (o.situation c)).perform c o.plant).2

/-- **Everything a run can do, to the rule and to the plant.** -/
theorem run_outcome (r : TopUp) (c : SlotId) (o : Occasion δ) :
    (r.state = .timedOut ∧ r.runOn c o = (.latched, r) ∧ r.plantOn c o = o.plant) ∨
    (r.state ≠ .timedOut ∧ o.readings.get? r.sensor = none ∧ r.runOn c o = (.skipped, r) ∧
      r.plantOn c o = o.plant) ∨
    ∃ x, r.state ≠ .timedOut ∧ o.readings.get? r.sensor = some x ∧
      r.runOn c o = (.ran, r.next (Binary.zero.lt x) (UInt64.ofNat o.uptime)) ∧
      ∀ j, (r.plantOn c o).actuators.get? j =
        match r.order? (Binary.zero.lt x) (UInt64.ofNat o.uptime) with
        | some on => (o.plant.switchAll c on).2.actuators.get? j
        | none => o.plant.actuators.get? j := by
  rw [runOn, plantOn, run]
  by_cases hstate : r.state = .timedOut
  · rw [if_pos hstate]
    exact .inl ⟨hstate, rfl, rfl⟩
  · rw [if_neg hstate]
    cases hx : o.readings.get? r.sensor with
    | none =>
      refine .inr (.inl ⟨hstate, rfl, ?_⟩)
      simp [Occasion.situation, hx]
    | some x =>
      refine .inr (.inr ⟨x, hstate, rfl, ?_, fun j => ?_⟩)
      · simp [Occasion.situation, hx, perform_step]
      · simp only [Occasion.situation, hx, Command.perform_bind, Command.perform_pure]
        exact get?_perform_step r (Binary.zero.lt x) (UInt64.ofNat o.uptime) c o.plant j

/-- A run that is not evaluated does not touch the plant, nor the rule. -/
theorem untouched_of_not_ran {r : TopUp} {c : SlotId} {o : Occasion δ}
    (h : (r.runOn c o).1 ≠ .ran) : (r.runOn c o).2 = r ∧ r.plantOn c o = o.plant := by
  rcases run_outcome r c o with ⟨-, hrun, hplant⟩ | ⟨-, -, hrun, hplant⟩ | ⟨x, -, -, hrun, -⟩
  · exact ⟨by rw [hrun], hplant⟩
  · exact ⟨by rw [hrun], hplant⟩
  · exact absurd (by rw [hrun]) h

/-- A run that changes the state was evaluated. -/
theorem ran_of_state_ne {r : TopUp} {c : SlotId} {o : Occasion δ}
    (h : (r.runOn c o).2.state ≠ r.state) : (r.runOn c o).1 = .ran := by
  by_cases hran : (r.runOn c o).1 = .ran
  · exact hran
  · exact absurd (by rw [(untouched_of_not_ran hran).1]) h

/-- What a run that was evaluated has done. -/
theorem outcome_of_ran {r : TopUp} {c : SlotId} {o : Occasion δ} (h : (r.runOn c o).1 = .ran) :
    ∃ x, r.state ≠ .timedOut ∧ o.readings.get? r.sensor = some x ∧
      r.runOn c o = (.ran, r.next (Binary.zero.lt x) (UInt64.ofNat o.uptime)) ∧
      ∀ j, (r.plantOn c o).actuators.get? j =
        match r.order? (Binary.zero.lt x) (UInt64.ofNat o.uptime) with
        | some on => (o.plant.switchAll c on).2.actuators.get? j
        | none => o.plant.actuators.get? j := by
  rcases run_outcome r c o with ⟨-, hrun, -⟩ | ⟨-, -, hrun, -⟩ | hran
  · rw [hrun] at h
    cases h
  · rw [hrun] at h
    cases h
  · exact hran

/-- A run gives nobody to the group and takes nobody out of it. -/
theorem mem_assignedIds_plantOn (r : TopUp) (c : SlotId) (o : Occasion δ) (id : SlotId) :
    id ∈ (r.plantOn c o).actuators.assignedIds c ↔ id ∈ o.plant.actuators.assignedIds c := by
  rcases run_outcome r c o with ⟨-, -, hplant⟩ | ⟨-, -, -, hplant⟩ | ⟨x, -, -, -, hget⟩
  · rw [hplant]
  · rw [hplant]
  · rw [Actuators.mem_assignedIds, hget]
    cases r.order? (Binary.zero.lt x) (UInt64.ofNat o.uptime) with
    | none => exact Actuators.mem_assignedIds.symm
    | some on =>
      rw [← Plant.mem_assignedIds_switchAll o.plant c on, Actuators.mem_assignedIds]

/-- An evaluation that finds its group at the level it relies on, with drivers that work, leaves it
at the level of the next state. -/
theorem groupAt_plantOn {r : TopUp} {c : SlotId} {o : Occasion δ}
    (hworks : o.plant.Group c Actuator.Working)
    (hlevel : ∀ on, r.state.level? = some on → o.plant.GroupAt c on)
    (hran : (r.runOn c o).1 = .ran) :
    (r.plantOn c o).GroupAt c (r.runOn c o).2.state.pumps := by
  obtain ⟨x, -, -, hrun, hget⟩ := outcome_of_ran hran
  intro id hid
  rw [mem_assignedIds_plantOn] at hid
  have key := or_level? r (Binary.zero.lt x) (UInt64.ofNat o.uptime)
  rw [hrun, Plant.isOn, hget]
  cases horder : r.order? (Binary.zero.lt x) (UInt64.ofNat o.uptime) with
  | none =>
    rw [horder, Option.none_or] at key
    exact hlevel _ key id hid
  | some on =>
    rw [horder, Option.some_or, Option.some.injEq] at key
    rw [← key]
    exact Plant.isOn_switchAll_of_working hworks hid on

/-! ## Histories in which only the rule moves its group -/

/-- The last run among the first `n` events, with its number. -/
def lastRun? (events : List (Event δ)) : Nat → Option (Nat × Occasion δ)
  | 0 => none
  | n + 1 =>
    match events[n]? with
    | some (.run o) => some (n, o)
    | _ => lastRun? events n

/-- What holds of every run, with its number and the occasion it happens on. -/
def EachRun (events : List (Event δ)) (P : Nat → Occasion δ → Prop) : Prop :=
  ∀ n < events.length, ∀ o ∈ events[n]?.bind Event.occasion?, P n o

instance (events : List (Event δ)) (P : Nat → Occasion δ → Prop) [∀ n o, Decidable (P n o)] :
    Decidable (EachRun events P) :=
  inferInstanceAs (Decidable (∀ n < events.length, _))

omit [Actuator δ] in
theorem EachRun.apply {events : List (Event δ)} {P : Nat → Occasion δ → Prop}
    (h : EachRun events P) {n : Nat} {o : Occasion δ} (ho : events[n]? = some (.run o)) : P n o :=
  h n (List.getElem?_eq_some_iff.mp ho).1 o (by rw [ho]; rfl)

/-- Every run finds the group as the run before it has left it: the same actuators, each with its
output in the same state.  Anything else about the plant may have changed; drivers may have begun
to fail, or recovered. -/
def Undisturbed (c : SlotId) (events : List (Event δ)) : Prop :=
  EachRun events fun n o => ∀ last ∈ lastRun? events n,
    ((ruleAt c events last.1).plantOn c last.2).SameGroup c o.plant

instance (c : SlotId) (events : List (Event δ)) : Decidable (Undisturbed c events) :=
  inferInstanceAs (Decidable (EachRun events _))

/-- At every run, all drivers of the group are of a certain kind. -/
def Drivers (c : SlotId) (P : δ → Prop) (events : List (Event δ)) : Prop :=
  EachRun events fun _ o => o.plant.Group c P

omit [Actuator δ] in
theorem lastRun?_run {events : List (Event δ)} {n : Nat} {o : Occasion δ}
    (ho : events[n]? = some (.run o)) : lastRun? events (n + 1) = some (n, o) := by
  rw [lastRun?, ho]

/-- **Everything that can come next**: a run, or something that resets the rule, or something that
leaves its state and its waiting time alone and interrupts no wait. -/
theorem run_or_quiet (c : SlotId) (events : List (Event δ)) (n : Nat) :
    (∃ o, events[n]? = some (.run o)) ∨
    (∀ o, events[n]? ≠ some (.run o)) ∧ lastRun? events (n + 1) = lastRun? events n ∧
      ((ruleAt c events (n + 1)).state = .ok ∨
        (ruleAt c events (n + 1)).state = (ruleAt c events n).state ∧
          (ruleAt c events (n + 1)).since = (ruleAt c events n).since ∧ KeepsHigh c events n) := by
  cases he : events[n]? with
  | none =>
    refine .inr ⟨nofun, by rw [lastRun?, he], .inr ?_⟩
    rw [ruleAt_succ_of_none he]
    exact ⟨rfl, rfl, keepsHigh_of_quiet (by rw [he]; nofun) (by rw [he]; nofun)⟩
  | some e =>
    rw [ruleAt_succ he]
    cases e with
    | run o => exact .inl ⟨o, rfl⟩
    | reset => exact .inr ⟨nofun, by rw [lastRun?, he], .inl rfl⟩
    | set x =>
      exact .inr ⟨nofun, by rw [lastRun?, he], .inr ⟨set_state _ x, set_since _ x,
        keepsHigh_of_quiet (by rw [he]; nofun) (by rw [he]; nofun)⟩⟩
    | load bytes =>
      exact .inr ⟨nofun, by rw [lastRun?, he], .inr ⟨(after_load _ bytes).1,
        (after_load _ bytes).2, keepsHigh_of_quiet (by rw [he]; nofun) (by rw [he]; nofun)⟩⟩

/-! ## Drivers that work -/

/-- After `n` events the group, as the last run left it, is at the level that the state relies
on. -/
structure LevelHeld (c : SlotId) (events : List (Event δ)) (n : Nat) : Prop where
  fresh : lastRun? events n = none → (ruleAt c events n).state = .ok
  level : ∀ last, lastRun? events n = some last →
    ∀ on, (ruleAt c events n).state.level? = some on →
      ((ruleAt c events last.1).plantOn c last.2).GroupAt c on

/-- A run finds the group at the level it relies on. -/
theorem LevelHeld.found {c : SlotId} {events : List (Event δ)} {n : Nat} {o : Occasion δ}
    (h : LevelHeld c events n) (hgroup : Undisturbed c events)
    (ho : events[n]? = some (.run o)) (on : Bool)
    (hon : (ruleAt c events n).state.level? = some on) : o.plant.GroupAt c on := by
  cases hlast : lastRun? events n with
  | none =>
    rw [h.fresh hlast] at hon
    cases hon
  | some last => exact (hgroup.apply ho last hlast).groupAt (h.level last hlast on hon)

/-- **The invariant of a group with drivers that work.** -/
theorem level_held {c : SlotId} {events : List (Event δ)} (hgroup : Undisturbed c events)
    (hworks : Drivers c Actuator.Working events) (n : Nat) : LevelHeld c events n := by
  induction n with
  | zero => exact ⟨fun _ => rfl, nofun⟩
  | succ n ih =>
    rcases run_or_quiet c events n with ⟨o, ho⟩ | ⟨-, hlast, hok | ⟨hsame, -, -⟩⟩
    · have hlast := lastRun?_run ho
      refine ⟨fun h => (Option.some_ne_none _ (hlast.symm.trans h)).elim, fun last h on hon => ?_⟩
      obtain rfl : (n, o) = last := Option.some.inj (hlast.symm.trans h)
      rw [ruleAt_succ ho, after] at hon
      by_cases hran : ((ruleAt c events n).runOn c o).1 = .ran
      · rw [← LevelState.pumps_of_level? hon]
        exact groupAt_plantOn (hworks.apply ho) (ih.found hgroup ho) hran
      · obtain ⟨hrule, hplant⟩ := untouched_of_not_ran hran
        rw [hrule] at hon
        rw [hplant]
        exact ih.found hgroup ho on hon
    · refine ⟨fun _ => hok, fun _ _ on hon => ?_⟩
      rw [hok] at hon
      cases hon
    · refine ⟨fun h => ?_, fun last h on hon => ?_⟩
      · rw [hsame]
        exact ih.fresh (hlast ▸ h)
      · rw [hsame] at hon
        exact ih.level last (hlast ▸ h) on hon

/-- After a run that was not skipped the group is at the level of the state. -/
theorem groupAt_of_not_skipped {c : SlotId} {events : List (Event δ)}
    (hgroup : Undisturbed c events) (hworks : Drivers c Actuator.Working events) {n : Nat}
    {o : Occasion δ} (ho : events[n]? = some (.run o))
    (h : ((ruleAt c events n).runOn c o).1 ≠ .skipped) :
    ((ruleAt c events n).plantOn c o).GroupAt c (ruleAt c events (n + 1)).state.pumps := by
  have hfound := (level_held hgroup hworks n).found hgroup ho
  rw [ruleAt_succ ho, after]
  rcases run_outcome (ruleAt c events n) c o with
    ⟨hstate, hrun, hplant⟩ | ⟨-, -, hrun, -⟩ | ⟨x, -, -, hrun, -⟩
  · rw [hplant, hrun, hstate]
    exact hfound false (by rw [hstate]; rfl)
  · rw [hrun] at h
    exact absurd rfl h
  · exact groupAt_plantOn (hworks.apply ho) hfound (by rw [hrun])

/-- A run that finds the rule stopped leaves it so. -/
theorem stopped_of_latched {c : SlotId} {events : List (Event δ)} {n : Nat} {o : Occasion δ}
    (ho : events[n]? = some (.run o)) (h : ((ruleAt c events n).runOn c o).1 = .latched) :
    (ruleAt c events (n + 1)).state = .timedOut := by
  rw [ruleAt_succ ho, after]
  rcases run_outcome (ruleAt c events n) c o with
    ⟨hstate, hrun, -⟩ | ⟨-, -, hrun, -⟩ | ⟨x, -, -, hrun, -⟩
  · rw [hrun]
    exact hstate
  · rw [hrun] at h
    cases h
  · rw [hrun] at h
    cases h

/-- **The group follows the state.**  If drivers work and only the rule moves its group, then after
every run that was evaluated the whole group is on in `refill` and `overrun` and off in any other
state, and after every run that found the rule stopped it is off. -/
theorem group_follows_state {c : SlotId} {events : List (Event δ)} (hgroup : Undisturbed c events)
    (hworks : Drivers c Actuator.Working events) {n : Nat} {o : Occasion δ}
    (ho : events[n]? = some (.run o)) :
    (((ruleAt c events n).runOn c o).1 = .ran →
      ∀ id ∈ o.plant.actuators.assignedIds c,
        ((ruleAt c events n).plantOn c o).isOn id = true ↔
          (ruleAt c events (n + 1)).state = .refill ∨
            (ruleAt c events (n + 1)).state = .overrun) ∧
    (((ruleAt c events n).runOn c o).1 = .latched →
      ∀ id ∈ o.plant.actuators.assignedIds c,
        ((ruleAt c events n).plantOn c o).isOn id = false) := by
  have key (h : ((ruleAt c events n).runOn c o).1 ≠ .skipped) {id : SlotId}
      (hid : id ∈ o.plant.actuators.assignedIds c) :
      ((ruleAt c events n).plantOn c o).isOn id = (ruleAt c events (n + 1)).state.pumps :=
    groupAt_of_not_skipped hgroup hworks ho h id ((mem_assignedIds_plantOn _ c o id).mpr hid)
  refine ⟨fun hran id hid => ?_, fun hlatched id hid => ?_⟩
  · rw [key (by rw [hran]; nofun) hid, LevelState.pumps_iff]
  · rw [key (by rw [hlatched]; nofun) hid, stopped_of_latched ho hlatched]
    rfl

/-- An occasion with pumps of controller 0 in the given states, the first of which refuses the given
commands.  Sensor 0 reads HIGH or LOW. -/
def scene (uptime : Nat) (high : Bool) (pumps : List Bool) (failure : FailureMode) :
    Occasion Relay :=
  let rig := (Rig.create (.ofNat 0) (.script Script.default)
    (pumps.map fun on => (.ofNat 0, on))).rewire (.ofNat 0) fun relay =>
      { relay with failure := failure }
  { look uptime (some (if high then 0x3FF0000000000000 else 0)) with
    plant := ⟨rig.actuators, [], []⟩ }

/-- Relays that refuse nothing work. -/
theorem drivers_working {c : SlotId} {events : List (Event Relay)}
    (h : EachRun events fun _ o => ∀ s ∈ o.plant.actuators.assigned c,
      s.2.device.failure = .none) : Drivers c Actuator.Working events :=
  fun n hn o ho s hs => Relay.working (h n hn o ho s hs)

/-- One of two pumps is on at the beginning.  In mid-refill the rule is reset. -/
def resetInMidRefill : List (Event Relay) :=
  [.set (.sensor (.ofNat 0)),
    .run (scene 0 true [true, false] .none),
    .run (scene 4000 true [false, false] .none),
    .reset,
    .run (scene 5000 true [true, true] .none)]

/-- Both pumps are still on when the next run finds them, and off after it. -/
theorem reset_refill_is_stopped :
    Undisturbed (.ofNat 0) resetInMidRefill ∧
    Drivers (.ofNat 0) Actuator.Working resetInMidRefill ∧
    ((ruleAt (.ofNat 0) resetInMidRefill 4).runOn (.ofNat 0)
      (scene 5000 true [true, true] .none)).1 = .ran ∧
    (scene 5000 true [true, true] .none).plant.actuators.assignedIds (.ofNat 0) =
      [.ofNat 0, .ofNat 1] ∧
    ∀ id ∈ (scene 5000 true [true, true] .none).plant.actuators.assignedIds (.ofNat 0),
      (scene 5000 true [true, true] .none).plant.isOn id = true ∧
      ((ruleAt (.ofNat 0) resetInMidRefill 4).plantOn (.ofNat 0)
        (scene 5000 true [true, true] .none)).isOn id ≠ true := by
  have hgroup : Undisturbed (.ofNat 0) resetInMidRefill := by decide
  have hworks : Drivers (.ofNat 0) Actuator.Working resetInMidRefill :=
    drivers_working (by decide)
  have hran : ((ruleAt (.ofNat 0) resetInMidRefill 4).runOn (.ofNat 0)
      (scene 5000 true [true, true] .none)).1 = .ran := by decide
  have hnext : ¬((ruleAt (.ofNat 0) resetInMidRefill 5).state = .refill ∨
      (ruleAt (.ofNat 0) resetInMidRefill 5).state = .overrun) := by decide
  refine ⟨hgroup, hworks, hran, by decide, fun id hid => ⟨?_, fun hon => hnext ?_⟩⟩
  · revert id
    decide
  · exact ((group_follows_state hgroup hworks (n := 4) rfl).1 hran id hid).mp hon

/-! ## Drivers that may refuse -/

/-- An evaluation stops the rule only in `refill`, with a HIGH reading and the time used up. -/
theorem of_next_timedOut {r : TopUp} {high : Bool} {now : UInt64} (hstate : r.state ≠ .timedOut)
    (h : (r.next high now).state = .timedOut) :
    r.state = .refill ∧ high = true ∧ exceeds r.since now r.timeout = true := by
  rw [next] at h
  cases hs : r.state <;> simp only [hs] at h
  · cases high <;> simp [hs] at h
  · cases high <;> cases hexc : exceeds r.since now r.delayHigh <;> simp [hexc, hs] at h
  · cases high <;> cases hexc : exceeds r.since now r.timeout <;> simp [hexc, hs] at h ⊢
  · cases high <;> cases hexc : exceeds r.since now r.delayLow <;> simp [hexc, hs] at h
  · exact absurd hs hstate

/-- What a run that times out leaves on is what refused to go off. -/
theorem isOn_plantOn_of_stops {r : TopUp} {c : SlotId} {o : Occasion δ}
    (hfaithful : o.plant.Group c Actuator.Faithful) (hstate : r.state = .refill)
    (hstops : (r.runOn c o).2.state = .timedOut) {id : SlotId}
    (hid : id ∈ o.plant.actuators.assignedIds c) :
    (r.plantOn c o).isOn id = o.plant.refuses id false := by
  have hran : (r.runOn c o).1 = .ran := ran_of_state_ne (by rw [hstops, hstate]; nofun)
  obtain ⟨x, -, -, hrun, hget⟩ := outcome_of_ran hran
  rw [hrun] at hstops
  have horder : r.order? (Binary.zero.lt x) (UInt64.ofNat o.uptime) = some false := by
    have key := or_level? r (Binary.zero.lt x) (UInt64.ofNat o.uptime)
    rw [hstops, hstate] at key
    cases h : r.order? (Binary.zero.lt x) (UInt64.ofNat o.uptime) with
    | none =>
      rw [h] at key
      cases key
    | some on =>
      rw [h] at key
      exact key
  rw [Plant.isOn, hget, horder]
  exact Plant.isOn_switchAll_off hfaithful hid

/-- Run `m` timed out, and from then on, up to event `n`, the rule has been stopped and its group
has stayed as that run left it. -/
structure StoppedBy (c : SlotId) (events : List (Event δ)) (n m : Nat) (last : Occasion δ) :
    Prop where
  lt : m < n
  run : events[m]? = some (.run last)
  refilling : (ruleAt c events m).state = .refill
  stopped : ∀ i, m < i → i ≤ n → (ruleAt c events i).state = .timedOut
  held : ∃ latest, lastRun? events n = some latest ∧
    ((ruleAt c events m).plantOn c last).SameGroup c
      ((ruleAt c events latest.1).plantOn c latest.2)

/-- **The invariant of a stopped rule.** -/
theorem stop_held {c : SlotId} {events : List (Event δ)} (hgroup : Undisturbed c events) (n : Nat)
    (h : (ruleAt c events n).state = .timedOut) : ∃ m last, StoppedBy c events n m last := by
  induction n with
  | zero => cases h
  | succ n ih =>
    rcases run_or_quiet c events n with ⟨o, ho⟩ | ⟨-, hlast, hok | ⟨hsame, -, -⟩⟩
    · have hstate := h
      rw [ruleAt_succ ho, after] at hstate
      rcases run_outcome (ruleAt c events n) c o with
        ⟨hstop, -, hplant⟩ | ⟨hne, -, hrun, -⟩ | ⟨x, hne, -, hrun, -⟩
      · obtain ⟨m, last, hm⟩ := ih hstop
        obtain ⟨latest, hlatest, hsame⟩ := hm.held
        refine ⟨m, last, Nat.lt_succ_of_lt hm.lt, hm.run, hm.refilling, fun i hi hin => ?_,
          (n, o), lastRun?_run ho, ?_⟩
        · rcases Nat.le_succ_iff.mp hin with hin | rfl
          · exact hm.stopped i hi hin
          · exact h
        · rw [hplant]
          exact hsame.trans (hgroup.apply ho latest hlatest)
      · rw [hrun] at hstate
        exact absurd hstate hne
      · rw [hrun] at hstate
        refine ⟨n, o, Nat.lt_succ_self n, ho, (of_next_timedOut hne hstate).1, fun i hi hin => ?_,
          (n, o), lastRun?_run ho, .refl c _⟩
        obtain rfl : i = n + 1 := by omega
        exact h
    · rw [hok] at h
      cases h
    · obtain ⟨m, last, hm⟩ := ih (hsame ▸ h)
      refine ⟨m, last, Nat.lt_succ_of_lt hm.lt, hm.run, hm.refilling, fun i hi hin => ?_, ?_⟩
      · rcases Nat.le_succ_iff.mp hin with hin | rfl
        · exact hm.stopped i hi hin
        · exact h
      · rw [hlast]
        exact hm.held

/-- **A stopped rule leaves on what refused to go off.**  Whatever the drivers do, a run that finds
the rule stopped commands nothing; so an actuator of its group is on after it just if it refused
the *off* of the one run that timed out, and the group is off just if none of it refused. -/
theorem on_while_stopped_iff_refused {c : SlotId} {events : List (Event δ)}
    (hgroup : Undisturbed c events) (hfaithful : Drivers c Actuator.Faithful events) {n : Nat}
    {o : Occasion δ} (ho : events[n]? = some (.run o))
    (hstopped : (ruleAt c events n).state = .timedOut) :
    ∃ m < n, ∃ last, events[m]? = some (.run last) ∧ (ruleAt c events m).state = .refill ∧
      (∀ i, m < i → i ≤ n → (ruleAt c events i).state = .timedOut) ∧
      ((ruleAt c events n).run (o.situation c)).requests c o.plant = [] ∧
      ∀ id ∈ o.plant.actuators.assignedIds c, id ∈ last.plant.actuators.assignedIds c ∧
        ((ruleAt c events n).plantOn c o).isOn id = last.plant.refuses id false := by
  obtain ⟨m, last, hm⟩ := stop_held hgroup n hstopped
  obtain ⟨latest, hlatest, hsame⟩ := hm.held
  have hgroups := hsame.trans (hgroup.apply ho latest hlatest)
  have hstops : ((ruleAt c events m).runOn c last).2.state = .timedOut := by
    have h := hm.stopped (m + 1) (Nat.lt_succ_self m) hm.lt
    rwa [ruleAt_succ hm.run, after] at h
  have hidle : ((ruleAt c events n).run (o.situation c)).requests c o.plant = [] := by
    rw [run, if_pos hstopped, Command.requests_pure]
  have hplant : (ruleAt c events n).plantOn c o = o.plant := by
    rw [plantOn, run, if_pos hstopped, Command.perform_pure]
  refine ⟨m, hm.lt, last, hm.run, hm.refilling, hm.stopped, hidle, fun id hid => ?_⟩
  rw [hgroups.1] at hid
  have hmem := (mem_assignedIds_plantOn _ c last id).mp hid
  refine ⟨hmem, ?_⟩
  rw [hplant, hgroups.2 id hid]
  exact isOn_plantOn_of_stops (hfaithful.apply hm.run) hm.refilling hstops hmem

/-- A refill with two pumps times out, and the first of them refuses to go off, but only then. -/
def stuckPump : List (Event Relay) :=
  [.set (.sensor (.ofNat 0)),
    .run (scene 0 true [false, false] .none),
    .run (scene 4000 true [false, false] .none),
    .run (scene 35000 true [true, true] .off),
    .run (scene 36000 true [true, false] .none)]

theorem stuck_pump_is_what_refused :
    Undisturbed (.ofNat 0) stuckPump ∧ Drivers (.ofNat 0) Actuator.Faithful stuckPump ∧
    (ruleAt (.ofNat 0) stuckPump 4).state = .timedOut ∧
    ∃ m < 4, ∃ last, stuckPump[m]? = some (.run last) ∧
      (ruleAt (.ofNat 0) stuckPump m).state = .refill ∧
      ((ruleAt (.ofNat 0) stuckPump 4).plantOn (.ofNat 0)
        (scene 36000 true [true, false] .none)).isOn (.ofNat 1) =
          last.plant.refuses (.ofNat 1) false := by
  have hgroup : Undisturbed (.ofNat 0) stuckPump := by decide
  have hfaithful : Drivers (.ofNat 0) Actuator.Faithful stuckPump :=
    fun _ _ _ _ s _ => s.2.device.faithful
  have hstopped : (ruleAt (.ofNat 0) stuckPump 4).state = .timedOut := by decide
  obtain ⟨m, hm, last, hlast, hstate, -, -, hids⟩ :=
    on_while_stopped_iff_refused hgroup hfaithful (n := 4) rfl hstopped
  exact ⟨hgroup, hfaithful, hstopped, m, hm, last, hlast, hstate,
    (hids (.ofNat 1) (by decide)).2⟩

/-- **A pump that stuck once runs on.**  The rule is stopped, no driver is failing any more, and
after a run the pump that refused its *off* is still on. -/
theorem stuck_pump_runs_on :
    Undisturbed (.ofNat 0) stuckPump ∧ Drivers (.ofNat 0) Actuator.Faithful stuckPump ∧
    (ruleAt (.ofNat 0) stuckPump 4).state = .timedOut ∧
    stuckPump[4]? = some (.run (scene 36000 true [true, false] .none)) ∧
    (scene 36000 true [true, false] .none).plant.Group (.ofNat 0) Actuator.Working ∧
    .ofNat 0 ∈ (scene 36000 true [true, false] .none).plant.actuators.assignedIds (.ofNat 0) ∧
    ((ruleAt (.ofNat 0) stuckPump 4).plantOn (.ofNat 0)
      (scene 36000 true [true, false] .none)).isOn (.ofNat 0) = true := by
  refine ⟨by decide, fun _ _ _ _ s _ => s.2.device.faithful, by decide, rfl, fun s hs => ?_,
    by decide, by decide⟩
  refine Relay.working ?_
  revert s
  decide

end TopUp

end AquariumControl
