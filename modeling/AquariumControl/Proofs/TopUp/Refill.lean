import AquariumControl.Proofs.TopUp.Outputs

/-!
# When a refill times out

`refill` and `overrun` share one mark, `since`.  The run that starts a refill sets it, and so does
every LOW reading that takes `refill` to `overrun`; the HIGH reading that leads back leaves it where
it is.  So after an interruption the time that a refill may take is counted from the LOW reading
that interrupted it, and not from the HIGH reading that resumed it.

* `TopUp.runOn_pumps` — everything a run can do that ends with the pumps to run.
* `TopUp.pumping_since` — the invariant of `refill` and `overrun`: which run started the refill,
  where the mark is, and since when all readings have been HIGH.
* `TopUp.ResumedBy` — the current HIGH readings began by resuming an interrupted refill.
-/

set_option autoImplicit false

namespace AquariumControl

namespace TopUp

variable {δ : Type} [Actuator δ]

/-! ## One run -/

/-- A run on this occasion has a reading, and it is HIGH or not. -/
def Occasion.Reads (o : Occasion δ) (sensor : SlotId) (high : Bool) : Prop :=
  ∃ x, o.readings.get? sensor = some x ∧ Binary.zero.lt x = high

/-- A rule that has not stopped evaluates the reading it gets. -/
theorem runOn_of_reads {r : TopUp} {c : SlotId} {o : Occasion δ} {high : Bool}
    (hstate : r.state ≠ .timedOut) (h : o.Reads r.sensor high) :
    r.runOn c o = (.ran, r.next high (UInt64.ofNat o.uptime)) := by
  obtain ⟨x, hx, rfl⟩ := h
  rcases run_outcome r c o with ⟨hstop, -⟩ | ⟨-, hnone, -⟩ | ⟨y, -, hy, hrun, -⟩
  · exact absurd hstop hstate
  · rw [hx] at hnone
    cases hnone
  · obtain rfl : x = y := Option.some.inj (hx.symm.trans hy)
    exact hrun

/-- **Every evaluation that ends with the pumps to run**: it starts a refill, goes on with it,
interrupts it, resumes it, or goes on in the overrun. -/
theorem next_pumps {r : TopUp} {high : Bool} {now : UInt64}
    (h : (r.next high now).state.pumps = true) :
    (r.state = .debounce ∧ high = true ∧
      r.next high now = { r with state := .refill, since := now }) ∨
    (r.state = .refill ∧ high = true ∧ exceeds r.since now r.timeout = false ∧
      r.next high now = r) ∨
    (r.state = .refill ∧ high = false ∧
      r.next high now = { r with state := .overrun, since := now }) ∨
    (r.state = .overrun ∧ high = true ∧ r.next high now = { r with state := .refill }) ∨
    (r.state = .overrun ∧ high = false ∧ exceeds r.since now r.delayLow = false ∧
      r.next high now = r) := by
  rw [next] at h ⊢
  cases hstate : r.state <;> simp only [hstate] at h ⊢
  · cases high <;> simp [LevelState.pumps, hstate] at h
  · cases high <;> cases hexc : exceeds r.since now r.delayHigh <;>
      simp [LevelState.pumps, hstate, hexc] at h ⊢
  · cases high <;> cases hexc : exceeds r.since now r.timeout <;>
      simp [LevelState.pumps, hexc] at h ⊢
  · cases high <;> cases hexc : exceeds r.since now r.delayLow <;>
      simp [LevelState.pumps, hexc] at h ⊢
  · simp [LevelState.pumps] at h

/-- **Every run that ends with the pumps to run** is skipped, or is one of those evaluations. -/
theorem runOn_pumps {r : TopUp} {c : SlotId} {o : Occasion δ}
    (h : (r.runOn c o).2.state.pumps = true) :
    r.runOn c o = (.skipped, r) ∨
    ∃ high, o.Reads r.sensor high ∧
      ((r.state = .debounce ∧ high = true ∧ r.runOn c o =
          (.ran, { r with state := .refill, since := UInt64.ofNat o.uptime })) ∨
        (r.state = .refill ∧ high = true ∧
          exceeds r.since (UInt64.ofNat o.uptime) r.timeout = false ∧ r.runOn c o = (.ran, r)) ∨
        (r.state = .refill ∧ high = false ∧ r.runOn c o =
          (.ran, { r with state := .overrun, since := UInt64.ofNat o.uptime })) ∨
        (r.state = .overrun ∧ high = true ∧ r.runOn c o = (.ran, { r with state := .refill })) ∨
        (r.state = .overrun ∧ high = false ∧
          exceeds r.since (UInt64.ofNat o.uptime) r.delayLow = false ∧
          r.runOn c o = (.ran, r))) := by
  rcases run_outcome r c o with ⟨hstate, hrun, -⟩ | ⟨-, -, hrun, -⟩ | ⟨x, -, hx, hrun, -⟩
  · rw [hrun, hstate] at h
    cases h
  · exact .inl hrun
  · rw [hrun] at h
    refine .inr ⟨_, ⟨x, hx, rfl⟩, ?_⟩
    simpa only [hrun, Prod.mk.injEq, true_and] using next_pumps h

/-- A run that times out has a HIGH reading, and the time is used up. -/
theorem reads_of_stops {r : TopUp} {c : SlotId} {o : Occasion δ} (hstate : r.state = .refill)
    (h : (r.runOn c o).2.state = .timedOut) :
    o.Reads r.sensor true ∧ exceeds r.since (UInt64.ofNat o.uptime) r.timeout = true := by
  have hran : (r.runOn c o).1 = .ran := ran_of_state_ne (by rw [h, hstate]; nofun)
  obtain ⟨x, hne, hx, hrun, -⟩ := outcome_of_ran hran
  rw [hrun] at h
  obtain ⟨-, hhigh, hexc⟩ := of_next_timedOut hne h
  exact ⟨⟨x, hx, hhigh⟩, hexc⟩

/-! ## Refills in a history -/

/-- Event `i` resumes an interrupted refill. -/
def Resumes (c : SlotId) (events : List (Event δ)) (i : Nat) : Prop :=
  (ruleAt c events i).state = .overrun ∧ (ruleAt c events (i + 1)).state = .refill

instance (c : SlotId) (events : List (Event δ)) : DecidablePred (Resumes c events) :=
  fun _ => inferInstanceAs (Decidable (_ ∧ _))

/-- The readings have been HIGH since run `k`, and that run resumed an interrupted refill. -/
structure ResumedBy (c : SlotId) (events : List (Event δ)) (n k : Nat) (back : Occasion δ) :
    Prop where
  lt : k < n
  run : events[k]? = some (.run back)
  resumes : Resumes c events k
  high : HighThroughout c events k n

/-- A run before event `n` at which `since` was set to its present value. -/
def MarkedAt (c : SlotId) (events : List (Event δ)) (n j : Nat) (mark : Occasion δ) : Prop :=
  j < n ∧ events[j]? = some (.run mark) ∧
    (ruleAt c events n).since = UInt64.ofNat mark.uptime

/-- Run `m` started a refill, which is still going on after `n` events. -/
structure PumpingSince (c : SlotId) (events : List (Event δ)) (n m : Nat) (start : Occasion δ) :
    Prop where
  lt : m < n
  run : events[m]? = some (.run start)
  started : (ruleAt c events m).state = .debounce
  pumps : ∀ i, m < i → i ≤ n → (ruleAt c events i).state.pumps = true
  mark : ∃ j mark, m ≤ j ∧ MarkedAt c events n j mark
  high : (ruleAt c events n).state = .refill →
    HighThroughout c events m n ∨ ∃ k back, ResumedBy c events n k back

theorem ResumedBy.ran {c : SlotId} {events : List (Event δ)} {n k : Nat} {back : Occasion δ}
    (h : ResumedBy c events n k back) : ((ruleAt c events k).runOn c back).1 = .ran := by
  refine ran_of_state_ne fun he => ?_
  have hresumed := h.resumes.2
  rw [ruleAt_succ h.run, after, he, h.resumes.1] at hresumed
  cases hresumed

theorem PumpingSince.ran {c : SlotId} {events : List (Event δ)} {n m : Nat} {start : Occasion δ}
    (h : PumpingSince c events n m start) : ((ruleAt c events m).runOn c start).1 = .ran := by
  refine ran_of_state_ne fun he => ?_
  have hpumps := h.pumps (m + 1) (Nat.lt_succ_self m) h.lt
  rw [ruleAt_succ h.run, after, he, h.started] at hpumps
  cases hpumps

/-- The refill goes on, and event `n` sets the mark or leaves it alone. -/
theorem PumpingSince.succ {c : SlotId} {events : List (Event δ)} {n m : Nat}
    {start : Occasion δ} (h : PumpingSince c events n m start)
    (hpumps : (ruleAt c events (n + 1)).state.pumps = true)
    (hmark : (ruleAt c events (n + 1)).since = (ruleAt c events n).since ∨
      ∃ mark, MarkedAt c events (n + 1) n mark)
    (hhigh : (ruleAt c events (n + 1)).state = .refill →
      HighThroughout c events m (n + 1) ∨ ∃ k back, ResumedBy c events (n + 1) k back) :
    PumpingSince c events (n + 1) m start where
  lt := Nat.lt_succ_of_lt h.lt
  run := h.run
  started := h.started
  pumps := fun i hi hin => by
    rcases Nat.le_succ_iff.mp hin with hin | rfl
    · exact h.pumps i hi hin
    · exact hpumps
  mark := by
    rcases hmark with hsince | ⟨mark, hmark⟩
    · obtain ⟨j, mark, hj, hlt, hrun, hset⟩ := h.mark
      exact ⟨j, mark, hj, Nat.lt_succ_of_lt hlt, hrun, hsince.trans hset⟩
    · exact ⟨n, mark, Nat.le_of_lt h.lt, hmark⟩
  high := hhigh

/-- An event that leaves the state and the mark alone, and interrupts no wait. -/
theorem PumpingSince.wait {c : SlotId} {events : List (Event δ)} {n m : Nat}
    {start : Occasion δ} (h : PumpingSince c events n m start)
    (hstate : (ruleAt c events (n + 1)).state = (ruleAt c events n).state)
    (hsince : (ruleAt c events (n + 1)).since = (ruleAt c events n).since)
    (hkeeps : (ruleAt c events n).state = .refill → KeepsHigh c events n) :
    PumpingSince c events (n + 1) m start := by
  refine h.succ ?_ (.inl hsince) fun hrefill => ?_
  · rw [hstate]
    exact h.pumps n h.lt (Nat.le_refl n)
  · rw [hstate] at hrefill
    have hn := hkeeps hrefill
    rcases h.high hrefill with hhigh | ⟨k, back, hk⟩
    · exact .inl (hhigh.succ hn)
    · exact .inr ⟨k, back, Nat.lt_succ_of_lt hk.lt, hk.run, hk.resumes,
        hk.high.succ hn⟩

theorem keepsHigh_of_reads {c : SlotId} {events : List (Event δ)} {n : Nat} {o : Occasion δ}
    (ho : events[n]? = some (.run o)) (h : o.Reads (ruleAt c events n).sensor true) :
    KeepsHigh c events n :=
  keepsHigh_of_run ho fun _ => h

theorem highThroughout_self {c : SlotId} {events : List (Event δ)} {n : Nat}
    (h : KeepsHigh c events n) : HighThroughout c events n (n + 1) := by
  intro i hn hi
  obtain rfl : i = n := by omega
  exact h

/-- A run that ends with the pumps to run goes on with a refill or starts one. -/
theorem pumping_since_run {c : SlotId} {events : List (Event δ)} {n : Nat} {o : Occasion δ}
    (ih : (ruleAt c events n).state.pumps = true → ∃ m start, PumpingSince c events n m start)
    (ho : events[n]? = some (.run o)) (h : (ruleAt c events (n + 1)).state.pumps = true) :
    ∃ m start, PumpingSince c events (n + 1) m start := by
  have hsucc : ruleAt c events (n + 1) = ((ruleAt c events n).runOn c o).2 := ruleAt_succ ho
  have hpumps := h
  rw [hsucc] at hpumps
  rcases runOn_pumps hpumps with hrun | ⟨high, hreads, hrun⟩
  · rw [hrun] at hsucc hpumps
    obtain ⟨m, start, hm⟩ := ih hpumps
    refine ⟨m, start, hm.wait (by rw [hsucc]) (by rw [hsucc]) fun _ => keepsHigh_of_run ho ?_⟩
    rw [hrun]
    exact fun hne => absurd rfl hne
  · rcases hrun with ⟨hstate, rfl, hrun⟩ | ⟨hstate, rfl, -, hrun⟩ | ⟨hstate, rfl, hrun⟩ |
      ⟨hstate, rfl, hrun⟩ | ⟨hstate, rfl, -, hrun⟩ <;> rw [hrun] at hsucc
    · -- a refill starts
      refine ⟨n, o, Nat.lt_succ_self n, ho, hstate, fun i hi hin => ?_,
        ⟨n, o, Nat.le_refl n, Nat.lt_succ_self n, ho, by rw [hsucc]⟩,
        fun _ => .inl (highThroughout_self (keepsHigh_of_reads ho hreads))⟩
      obtain rfl : i = n + 1 := by omega
      exact h
    · obtain ⟨m, start, hm⟩ := ih (by rw [hstate]; rfl)
      exact ⟨m, start, hm.wait (by rw [hsucc]) (by rw [hsucc]) fun _ =>
        keepsHigh_of_reads ho hreads⟩
    · -- the refill is interrupted, and the mark set anew
      obtain ⟨m, start, hm⟩ := ih (by rw [hstate]; rfl)
      refine ⟨m, start, hm.succ h (.inr ⟨o, Nat.lt_succ_self n, ho, by rw [hsucc]⟩) ?_⟩
      rw [hsucc]
      nofun
    · -- the refill is resumed, with the mark where it was
      obtain ⟨m, start, hm⟩ := ih (by rw [hstate]; rfl)
      exact ⟨m, start, hm.succ h (.inl (by rw [hsucc])) fun _ => .inr ⟨n, o, Nat.lt_succ_self n,
        ho, ⟨hstate, by rw [hsucc]⟩, highThroughout_self (keepsHigh_of_reads ho hreads)⟩⟩
    · obtain ⟨m, start, hm⟩ := ih (by rw [hstate]; rfl)
      refine ⟨m, start, hm.wait (by rw [hsucc]) (by rw [hsucc]) fun hrefill => ?_⟩
      rw [hstate] at hrefill
      cases hrefill

/-- **The invariant of `refill` and `overrun`.** -/
theorem pumping_since (c : SlotId) (events : List (Event δ)) (n : Nat)
    (h : (ruleAt c events n).state.pumps = true) :
    ∃ m start, PumpingSince c events n m start := by
  induction n with
  | zero => cases h
  | succ n ih =>
    rcases run_or_quiet c events n with ⟨o, ho⟩ | ⟨-, -, hok | ⟨hstate, hsince, hkeeps⟩⟩
    · exact pumping_since_run ih ho h
    · rw [hok] at h
      cases h
    · obtain ⟨m, start, hm⟩ := ih (hstate ▸ h)
      exact ⟨m, start, hm.wait hstate hsince fun _ => hkeeps⟩

/-! ## Time-outs -/

omit [Actuator δ] in
/-- Uptimes do not decrease from a run to itself or to a later one. -/
theorem Clocked.uptimes_of_le {events : List (Event δ)} (h : Clocked events) {m n : Nat}
    (hmn : m ≤ n) {o o' : Occasion δ} (hm : events[m]? = some (.run o))
    (hn : events[n]? = some (.run o')) :
    o.uptime ≤ o'.uptime ∧ o'.uptime < o.uptime + UInt64.size := by
  rcases Nat.eq_or_lt_of_le hmn with rfl | hlt
  · obtain rfl : o = o' := by simpa [hm] using hn
    exact ⟨Nat.le_refl _, Nat.lt_add_of_pos_right (by decide)⟩
  · exact h.uptimes hlt hm hn

/-- A HIGH reading does not lead to `overrun`. -/
theorem next_high_ne_overrun (r : TopUp) (now : UInt64) : (r.next true now).state ≠ .overrun := by
  rw [next]
  cases hstate : r.state <;> dsimp only
  · simp
  · cases exceeds r.since now r.delayHigh <;> simp [hstate]
  · cases exceeds r.since now r.timeout <;> simp [hstate]
  · simp
  · simp [hstate]

/-- What interrupts no wait leads to `overrun` only from there, and by no evaluated run. -/
theorem overrun_of_keepsHigh {c : SlotId} {events : List (Event δ)} {n : Nat}
    (hkeeps : KeepsHigh c events n) (h : (ruleAt c events (n + 1)).state = .overrun) :
    (ruleAt c events n).state = .overrun ∧
      ∀ o, events[n]? = some (.run o) → ((ruleAt c events n).runOn c o).1 ≠ .ran := by
  rcases run_or_quiet c events n with ⟨o, ho⟩ | ⟨hquiet, -, hok | ⟨hstate, -, -⟩⟩
  · rw [ruleAt_succ ho, after] at h
    have hnot : ((ruleAt c events n).runOn c o).1 ≠ .ran := fun hran => by
      obtain ⟨_, hne, -⟩ := outcome_of_ran hran
      rw [runOn_of_reads hne (hkeeps.2 o ho (by rw [hran]; decide))] at h
      exact next_high_ne_overrun _ _ h
    rw [(untouched_of_not_ran hnot).1] at h
    refine ⟨h, fun o' ho' => ?_⟩
    obtain rfl : o = o' := by simpa [ho] using ho'
    exact hnot
  · rw [hok] at h
    cases h
  · exact ⟨hstate ▸ h, fun o ho => absurd ho (hquiet o)⟩

/-- While nothing interrupts a wait that began with a HIGH reading, the rule does not come to
`overrun`. -/
theorem not_overrun_of_high {c : SlotId} {events : List (Event δ)} {m : Nat} {start : Occasion δ}
    (hstart : events[m]? = some (.run start))
    (hran : ((ruleAt c events m).runOn c start).1 = .ran) {n : Nat} (hm : m < n)
    (hhigh : HighThroughout c events m n) : (ruleAt c events n).state ≠ .overrun := by
  induction n with
  | zero => omega
  | succ n ih =>
    intro h
    obtain ⟨hbefore, hnot⟩ := overrun_of_keepsHigh (hhigh n (by omega) (by omega)) h
    rcases Nat.lt_succ_iff_lt_or_eq.mp hm with hlt | rfl
    · exact ih hlt (fun i hi hin => hhigh i hi (by omega)) hbefore
    · exact hnot start hstart hran

/-- **When a time-out was due.**  A rule times out only if its refill has been going on for longer
than `timeout`.  But the readings need not have been HIGH for so long: they have been just if the
HIGH reading that resumed the refill after its last interruption, if there was one, lies longer
than `timeout` back. -/
theorem timeout_after_lasting_high_iff {c : SlotId} {events : List (Event δ)}
    (hclock : Clocked events) {n : Nat} {o : Occasion δ} (ho : events[n]? = some (.run o))
    (hstate : (ruleAt c events n).state = .refill)
    (hstops : (ruleAt c events (n + 1)).state = .timedOut) :
    (∃ m < n, ∃ start, events[m]? = some (.run start) ∧ (ruleAt c events m).state = .debounce ∧
      (∀ i, m < i → i ≤ n → (ruleAt c events i).state.pumps = true) ∧
      start.uptime + 1000 * (ruleAt c events n).timeout.toNat < o.uptime) ∧
    ((∃ m < n, ∃ start, events[m]? = some (.run start) ∧
        ((ruleAt c events m).runOn c start).1 = .ran ∧
        start.uptime + 1000 * (ruleAt c events n).timeout.toNat < o.uptime ∧
        HighThroughout c events m (n + 1)) ↔
      ∀ k back, ResumedBy c events n k back →
        back.uptime + 1000 * (ruleAt c events n).timeout.toNat < o.uptime) := by
  rw [ruleAt_succ ho, after] at hstops
  obtain ⟨hreads, hexc⟩ := reads_of_stops hstate hstops
  have hn : KeepsHigh c events n := keepsHigh_of_reads ho hreads
  obtain ⟨m, start, hm⟩ := pumping_since c events n (by rw [hstate]; rfl)
  obtain ⟨j, mark, hmj, hj, hmark, hsince⟩ := hm.mark
  have hstartle := (hclock.uptimes_of_le hmj hm.run hmark).1
  obtain ⟨hmarkle, hmarklt⟩ := hclock.uptimes hj hmark ho
  rw [hsince, exceeds_ofNat hmarkle hmarklt] at hexc
  have hlong : start.uptime + 1000 * (ruleAt c events n).timeout.toNat < o.uptime := by omega
  refine ⟨⟨m, hm.lt, start, hm.run, hm.started, hm.pumps, hlong⟩, ?_, fun hback => ?_⟩
  · rintro ⟨m', hm', start', hrun', hran', hlong', hhigh'⟩ k back hk
    rcases Nat.lt_or_ge m' k with hlt | hge
    · refine absurd hk.resumes.1 (not_overrun_of_high hrun' hran' hlt fun i hi hik => ?_)
      exact hhigh' i hi (by have := hk.lt; omega)
    · have hbackle := (hclock.uptimes_of_le hge hk.run hrun').1
      omega
  · rcases hm.high hstate with hhigh | ⟨k, back, hk⟩
    · exact ⟨m, hm.lt, start, hm.run, hm.ran, hlong, hhigh.succ hn⟩
    · exact ⟨k, hk.lt, back, hk.run, hk.ran, hback k back hk, hk.high.succ hn⟩

/-- A refill that starts at 4 s and is interrupted for the time from 10 s to 15 s; after that the
water stays low until the last run. -/
def flicker (last : Nat) : List (Event Relay) :=
  [.set (.sensor (.ofNat 0)),
    .run (scene 0 true [false] .none),
    .run (scene 4000 true [false] .none),
    .run (scene 10000 false [true] .none),
    .run (scene 15000 true [true] .none),
    .run (scene last true [true] .none)]

theorem flicker_may_time_out :
    Clocked (flicker 46000) ∧ (ruleAt (.ofNat 0) (flicker 46000) 5).state = .refill ∧
    (ruleAt (.ofNat 0) (flicker 46000) 6).state = .timedOut ∧
    ∃ m < 5, ∃ start, (flicker 46000)[m]? = some (.run start) ∧
      start.uptime + 1000 * 30 < 46000 ∧ HighThroughout (.ofNat 0) (flicker 46000) m 6 := by
  have hclock : Clocked (flicker 46000) := by
    simp [Clocked, flicker, Event.occasion?, scene, look, UInt64.size]
  have hstate : (ruleAt (.ofNat 0) (flicker 46000) 5).state = .refill := by decide
  have hstops : (ruleAt (.ofNat 0) (flicker 46000) 6).state = .timedOut := by decide
  have htimeout : (ruleAt (.ofNat 0) (flicker 46000) 5).timeout = 30 := by decide
  have honly : ∀ k < 5, (ruleAt (.ofNat 0) (flicker 46000) k).state = .overrun → k = 4 := by
    decide
  have hdue := (timeout_after_lasting_high_iff hclock (n := 5) rfl hstate hstops).2
  rw [htimeout] at hdue
  obtain ⟨m, hm, start, hstart, -, hlong, hhigh⟩ := hdue.mpr fun k back hk => by
    obtain rfl := honly k hk.lt hk.resumes.1
    obtain rfl : scene 15000 true [true] .none = back := by simpa [flicker] using hk.run
    decide
  exact ⟨hclock, hstate, hstops, m, hm, start, hstart, hlong, hhigh⟩

/-- **A flicker brings the time-out forward.**  The last run times out 31 s after the LOW reading,
but the water has then been low for 26 s only: of the runs from more than `timeout` ago on, one was
evaluated and did not read above zero. -/
theorem flicker_times_out_early :
    Clocked (flicker 41000) ∧ (ruleAt (.ofNat 0) (flicker 41000) 5).state = .refill ∧
    (ruleAt (.ofNat 0) (flicker 41000) 6).state = .timedOut ∧
    (ruleAt (.ofNat 0) (flicker 41000) 5).timeout = 30 ∧
    ¬∃ m < 5, ∃ start, (flicker 41000)[m]? = some (.run start) ∧
      start.uptime + 1000 * 30 < 41000 ∧
      ∀ i, m ≤ i → i ≤ 5 → ∀ o, (flicker 41000)[i]? = some (.run o) →
        ((ruleAt (.ofNat 0) (flicker 41000) i).runOn (.ofNat 0) o).1 ≠ .skipped →
        o.Reads (ruleAt (.ofNat 0) (flicker 41000) i).sensor true := by
  refine ⟨?_, by decide, by decide, by decide, ?_⟩
  · simp [Clocked, flicker, Event.occasion?, scene, look, UInt64.size]
  rintro ⟨m, hm, start, hstart, hlong, hhigh⟩
  rcases Nat.lt_succ_iff_lt_or_eq.mp hm with hlt | rfl
  · obtain ⟨x, hx, hpos⟩ := hhigh 3 (by omega) (by omega) _ rfl (by decide)
    have hzero : (scene 10000 false [true] .none).readings.get?
        (ruleAt (.ofNat 0) (flicker 41000) 3).sensor = some ⟨0⟩ := by decide
    obtain rfl := Option.some.inj (hzero.symm.trans hx)
    exact absurd hpos (by decide)
  · obtain rfl : scene 15000 true [true] .none = start := by simpa [flicker] using hstart
    exact absurd hlong (by decide)

end TopUp

end AquariumControl
