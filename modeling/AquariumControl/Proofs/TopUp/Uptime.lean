import AquariumControl.Proofs.TopUp

/-!
# Where the uptime counter began

A top-up rule looks at the uptime only to see how much of it has passed since a mark, and it sets
the mark whenever it begins to measure.  In the states that measure nothing there may be any mark:
a fresh rule and a reset one have zero there, wherever the counter is.

* `TopUp.errand`, `TopUp.outcome` — a run as what it does and what it ends with (`TopUp.run_eq`).
* `TopUp.Shifted` — two rules that are the same, except that the mark of the second is later
  wherever it is read.
* `TopUp.Shifted.run` — at a later uptime the second one does the same, and they stay shifted.
* `TopUp.origin_of_uptime_is_immaterial` — so no history shows where the counter began.
-/

set_option autoImplicit false

namespace AquariumControl

/-- The states that measure how much time has passed since the mark. -/
def LevelState.measures : LevelState → Bool
  | .ok => false
  | .debounce => true
  | .refill => true
  | .overrun => true
  | .timedOut => false

namespace TopUp

/-! ## What a run does -/

/-- What one evaluation does, apart from the rule that it ends with. -/
def deed (r : TopUp) (high : Bool) (now : UInt64) : Command Unit :=
  match r.order? high now with
  | none => pure ()
  | some on => do
    if r.state = .refill then
      Command.note (.refillTimedOut r.timeout)
    let _ ← Command.switchAll on
    pure ()

theorem step_eq (r : TopUp) (high : Bool) (now : UInt64) :
    r.step high now = (do r.deed high now; pure (r.next high now)) := by
  rw [step, deed, next, order?]
  cases r.state <;> dsimp only
  · rfl
  · cases high
    · rfl
    · cases exceeds r.since now r.delayHigh <;> rfl
  · cases high
    · rfl
    · cases exceeds r.since now r.timeout <;> rfl
  · cases high
    · cases exceeds r.since now r.delayLow <;> rfl
    · rfl
  · rfl

/-- What a run does, apart from what it ends with. -/
def errand (r : TopUp) (s : Situation) : Command Unit :=
  if r.state = .timedOut then pure ()
  else
    match s.readings.get? r.sensor with
    | none => pure ()
    | some reading => r.deed (Binary.zero.lt reading) s.uptime

/-- What a run ends with. -/
def outcome (r : TopUp) (s : Situation) : RunStatus × TopUp :=
  if r.state = .timedOut then (.latched, r)
  else
    match s.readings.get? r.sensor with
    | none => (.skipped, r)
    | some reading => (.ran, r.next (Binary.zero.lt reading) s.uptime)

theorem run_eq (r : TopUp) (s : Situation) :
    r.run s = (do r.errand s; pure (r.outcome s)) := by
  rw [run, errand, outcome]
  split
  · rfl
  · cases s.readings.get? r.sensor with
    | none => rfl
    | some reading => simp only [step_eq, bind_assoc, pure_bind]

/-! ## Two rules -/

/-- Two rules that differ in the mark at most, and where time is measured the mark of the second is
later by `d`. -/
structure Shifted (d : UInt64) (r r' : TopUp) : Prop where
  same : r' = { r with since := r'.since }
  mark : r.state.measures = true → r'.since = r.since + d

/-- Time that has passed is the same on both clocks, also across a turn of the counter. -/
theorem exceeds_add (since now d : UInt64) (seconds : UInt16) :
    exceeds (since + d) (now + d) seconds = exceeds since now seconds := by
  have hdiff : now + d - (since + d) = now - since := by grind
  rw [exceeds, exceeds, hdiff]

namespace Shifted

variable {d : UInt64} {r r' : TopUp}

theorem of_not_measures {mark : UInt64} (h : r.state.measures = false) :
    Shifted d r { r with since := mark } where
  same := rfl
  mark hmeasures := by rw [h] at hmeasures; cases hmeasures

theorem exists_mark (h : Shifted d r r') : ∃ mark, r' = { r with since := mark } :=
  ⟨_, h.same⟩

theorem state (h : Shifted d r r') : r'.state = r.state := by
  rw [h.same]

theorem sensor (h : Shifted d r r') : r'.sensor = r.sensor := by
  rw [h.same]

theorem exceeds (h : Shifted d r r') (hmeasures : r.state.measures = true) (now : UInt64)
    (seconds : UInt16) :
    TopUp.exceeds r'.since (now + d) seconds = TopUp.exceeds r.since now seconds := by
  rw [h.mark hmeasures, exceeds_add]

/-- At a later uptime the same is commanded. -/
theorem order? (h : Shifted d r r') (high : Bool) (now : UInt64) :
    r'.order? high (now + d) = r.order? high now := by
  have hexceeds := fun hmeasures => h.exceeds hmeasures now
  rw [h.same, TopUp.order?, TopUp.order?]
  dsimp only
  cases hstate : r.state <;> rw [hstate] at hexceeds <;> dsimp only
  · rw [hexceeds rfl]
  · rw [hexceeds rfl]
  · rw [hexceeds rfl]

theorem deed (h : Shifted d r r') (high : Bool) (now : UInt64) :
    r'.deed high (now + d) = r.deed high now := by
  rw [TopUp.deed, TopUp.deed, h.order?, h.same]

/-- **One evaluation**: a mark is set to the uptime of the moment, or it stays where it is, or it is
not read until another one is set. -/
theorem next (h : Shifted d r r') (high : Bool) (now : UInt64) :
    Shifted d (r.next high now) (r'.next high (now + d)) := by
  have hexceeds := fun hmeasures => h.exceeds hmeasures now
  obtain ⟨mark, rfl⟩ := h.exists_mark
  obtain ⟨sensor, delayLow, delayHigh, timeout, state, since⟩ := r
  rw [TopUp.next, TopUp.next]
  dsimp only at hexceeds ⊢
  cases state <;> dsimp only
  · cases high
    · exact h
    · exact ⟨rfl, fun _ => rfl⟩
  · rw [hexceeds rfl]
    cases high
    · exact of_not_measures rfl
    · cases TopUp.exceeds since now delayHigh
      · exact h
      · exact ⟨rfl, fun _ => rfl⟩
  · rw [hexceeds rfl]
    cases high
    · exact ⟨rfl, fun _ => rfl⟩
    · cases TopUp.exceeds since now timeout
      · exact h
      · exact of_not_measures rfl
  · rw [hexceeds rfl]
    cases high
    · cases TopUp.exceeds since now delayLow
      · exact h
      · exact of_not_measures rfl
    -- a refill that is resumed goes on with the mark of the overrun
    · exact ⟨rfl, fun _ => h.mark rfl⟩
  · exact h

/-- **One run** at a later uptime does the same and ends the same way, and leaves two rules that are
shifted as before. -/
theorem run (h : Shifted d r r') (s : Situation) :
    r'.errand { s with uptime := s.uptime + d } = r.errand s ∧
      (r'.outcome { s with uptime := s.uptime + d }).1 = (r.outcome s).1 ∧
      Shifted d (r.outcome s).2 (r'.outcome { s with uptime := s.uptime + d }).2 := by
  rw [errand, errand, outcome, outcome, h.state, h.sensor]
  by_cases hlatched : r.state = .timedOut
  · rw [if_pos hlatched, if_pos hlatched, if_pos hlatched, if_pos hlatched]
    exact ⟨rfl, rfl, h⟩
  · rw [if_neg hlatched, if_neg hlatched, if_neg hlatched, if_neg hlatched]
    dsimp only
    cases s.readings.get? r.sensor with
    | none => exact ⟨rfl, rfl, h⟩
    | some reading => exact ⟨h.deed .., rfl, h.next ..⟩

theorem reset (h : Shifted d r r') : Shifted d r.reset r'.reset := by
  obtain ⟨mark, rfl⟩ := h.exists_mark
  exact of_not_measures rfl

theorem set (h : Shifted d r r') (x : Setting) : Shifted d (r.set x) (r'.set x) := by
  obtain ⟨mark, rfl⟩ := h.exists_mark
  cases x <;> exact ⟨rfl, h.mark⟩

theorem load (h : Shifted d r r') (bytes : List UInt8) :
    Shifted d (match TopUp.load r bytes with | .ok (s, _) => s | .error _ => r)
      (match TopUp.load r' bytes with | .ok (s, _) => s | .error _ => r') := by
  obtain ⟨mark, rfl⟩ := h.exists_mark
  rw [TopUp.load, TopUp.load]
  cases Reader.decode readSettings bytes with
  | error _ => exact h
  | ok _ => exact ⟨rfl, h.mark⟩

end Shifted

/-! ## Histories -/

variable {δ : Type} [Actuator δ]

/-- The same occasion on a clock that is ahead by `d`. -/
def Occasion.later (d : UInt64) (o : Occasion δ) : Occasion δ :=
  { o with uptime := o.uptime + d.toNat }

/-- The same event on a clock that is ahead by `d`. -/
def Event.later (d : UInt64) : Event δ → Event δ
  | .run o => .run (o.later d)
  | .reset => .reset
  | .set x => .set x
  | .load bytes => .load bytes

omit [Actuator δ] in
/-- The rule is shown an uptime that is later by `d`, modulo `2 ^ 64`. -/
theorem Occasion.situation_later (d : UInt64) (o : Occasion δ) (c : SlotId) :
    (o.later d).situation c =
      { o.situation c with uptime := (o.situation c).uptime + d } := by
  simp only [situation, later, UInt64.ofNat_add, UInt64.ofNat_toNat]

/-- What can be seen of an event: the state that it leaves, and of a run how it ended, what was
commanded and answered, and the plant that it left. -/
def sight (c : SlotId) (r : TopUp) (e : Event δ) :
    LevelState × Option (RunStatus × List Request × Plant δ) :=
  ((after c r e).state, e.occasion?.map fun o =>
    ((r.runOn c o).1, (r.run (o.situation c)).requests c o.plant,
      ((r.run (o.situation c)).perform c o.plant).2))

/-- What can be seen of a history. -/
def sights (c : SlotId) (r : TopUp) : List (Event δ) →
    List (LevelState × Option (RunStatus × List Request × Plant δ))
  | [] => []
  | e :: rest => r.sight c e :: (after c r e).sights c rest

/-- **One event** looks the same on both clocks. -/
theorem Shifted.event {d : UInt64} {r r' : TopUp} (h : Shifted d r r') (c : SlotId) (e : Event δ) :
    r'.sight c (e.later d) = r.sight c e ∧
      Shifted d (after c r e) (after c r' (e.later d)) := by
  have hnext : Shifted d (after c r e) (after c r' (e.later d)) := by
    cases e with
    | run o =>
      simp only [Event.later, after, runOn, o.situation_later, run_eq, Command.perform_bind,
        Command.perform_pure]
      exact (h.run _).2.2
    | reset => exact h.reset
    | set x => exact h.set x
    | load bytes => exact h.load bytes
  refine ⟨?_, hnext⟩
  rw [sight, sight, hnext.state]
  cases e with
  | run o =>
    obtain ⟨herrand, hstatus, -⟩ := h.run (o.situation c)
    have hplant : (o.later d).plant = o.plant := rfl
    simp [Event.later, Event.occasion?, runOn, o.situation_later, run_eq, herrand, hstatus, hplant]
  | reset => rfl
  | set x => rfl
  | load bytes => rfl

/-- **Two histories** that differ by `d` in every uptime look the same from shifted rules. -/
theorem Shifted.sights {d : UInt64} {r r' : TopUp} (h : Shifted d r r') (c : SlotId)
    (events : List (Event δ)) :
    r'.sights c (events.map (Event.later d)) = r.sights c events ∧
      Shifted d (events.foldl (after c) r) ((events.map (Event.later d)).foldl (after c) r') := by
  induction events generalizing r r' with
  | nil => exact ⟨rfl, h⟩
  | cons e rest ih =>
    obtain ⟨hsight, hnext⟩ := h.event c e
    obtain ⟨hsights, hlast⟩ := ih hnext
    refine ⟨?_, hlast⟩
    rw [List.map_cons, TopUp.sights, TopUp.sights, hsight, hsights]

/-- **Where the uptime counter began is immaterial.**  Take any history of a fresh rule, with runs,
resets, new settings and loaded records in any order, with any readings and any plants, and put the
clock forward by `d` in all its runs (`Occasion.situation_later`), where the counter may turn over
anywhere.  Then every event leaves the same state, and every run ends the same way, commands the
same and gets the same answers and leaves the same plant.  After any number of events the two rules
are the same too, except that where time is measured the mark is later by `d`. -/
theorem origin_of_uptime_is_immaterial (c : SlotId) (d : UInt64) (events : List (Event δ)) :
    default.sights c (events.map (Event.later d)) = default.sights c events ∧
      ∀ n, Shifted d (ruleAt c events n) (ruleAt c (events.map (Event.later d)) n) := by
  have hfresh : Shifted d default default := .of_not_measures rfl
  refine ⟨(hfresh.sights c events).1, fun n => ?_⟩
  rw [ruleAt, ruleAt, ← List.map_take]
  exact (hfresh.sights c (events.take n)).2

end TopUp

end AquariumControl
