import Mathlib.Data.Nat.Count
import AquariumControl.Proofs.TopUp.Refill

/-!
# How long the pumps run at a stretch

The mark that `refill` and `overrun` share is set anew whenever a LOW reading interrupts a refill,
and a reading that interrupts or resumes is not measured against it.  So no limit holds for a
refill as a whole: each resumption buys the pumps another round.

* `TopUp.resumptions` — how often an interrupted refill was resumed.
* `TopUp.roundTime` — the most that one resumption can add.
* `TopUp.InTime` — where the mark and the last run may lie while the pumps run.
* `TopUp.InStretch` — the invariant: the pumps have run since a certain run, and they are in time.
* `TopUp.pumps_of_flutter` — readings that alternate keep the pumps running for ever.
-/

set_option autoImplicit false

namespace AquariumControl

namespace TopUp

variable {δ : Type} [Actuator δ] {c : SlotId} {events : List (Event δ)}

/-! ## Rounds -/

/-- No run comes more than `gap` milliseconds after the run before it. -/
def Spaced (events : List (Event δ)) (gap : Nat) : Prop :=
  EachRun events fun n o => ∀ last ∈ lastRun? events n, o.uptime ≤ last.2.uptime + gap

/-- There is a reading at every run that needs one. -/
def NeverSkipped (c : SlotId) (events : List (Event δ)) : Prop :=
  EachRun events fun n o => ((ruleAt c events n).runOn c o).1 ≠ .skipped

instance (events : List (Event δ)) (gap : Nat) : Decidable (Spaced events gap) :=
  inferInstanceAs (Decidable (EachRun events _))

instance (c : SlotId) (events : List (Event δ)) : Decidable (NeverSkipped c events) :=
  inferInstanceAs (Decidable (EachRun events _))

/-- Some actuator of the group is on after run `n`, on this occasion. -/
def OnAfter (c : SlotId) (events : List (Event δ)) (n : Nat) (o : Occasion δ) : Prop :=
  ∃ id ∈ o.plant.actuators.assignedIds c, ((ruleAt c events n).plantOn c o).isOn id = true

instance (c : SlotId) (events : List (Event δ)) (n : Nat) (o : Occasion δ) :
    Decidable (OnAfter c events n o) :=
  inferInstanceAs (Decidable (∃ id ∈ _, _))

/-- How many of the events between `m` and `n` resumed an interrupted refill. -/
def resumptions (c : SlotId) (events : List (Event δ)) (m n : Nat) : Nat :=
  Nat.count (fun i => m < i ∧ Resumes c events i) n

theorem resumptions_start (c : SlotId) (events : List (Event δ)) (m : Nat) :
    resumptions c events m (m + 1) = 0 :=
  Nat.count_of_forall_not fun _ hi h => absurd h.1 (Nat.not_lt.mpr (Nat.le_of_lt_succ hi))

theorem resumptions_succ {m n : Nat} (hm : m < n) (h : Resumes c events n) :
    resumptions c events m (n + 1) = resumptions c events m n + 1 :=
  Nat.count_succ_eq_succ_count ⟨hm, h⟩

theorem resumptions_succ_of_not {n : Nat} (m : Nat) (h : ¬Resumes c events n) :
    resumptions c events m (n + 1) = resumptions c events m n :=
  Nat.count_succ_eq_count fun hn => h hn.2

theorem not_resumes_of_refill {n : Nat} (h : (ruleAt c events n).state = .refill) :
    ¬Resumes c events n := by
  rintro ⟨hover, -⟩
  rw [h] at hover
  cases hover

theorem not_resumes_of_state_eq {n : Nat}
    (h : (ruleAt c events (n + 1)).state = (ruleAt c events n).state) : ¬Resumes c events n := by
  rintro ⟨hover, hrefill⟩
  rw [h, hover] at hrefill
  cases hrefill

/-- The most that one resumption can add to the time the pumps run, all in milliseconds.  The
reading that resumes may come a gap after the last one that was measured, and so may the next one
that interrupts. -/
def roundTime (gap delayLow timeout : Nat) : Nat :=
  max timeout (delayLow + gap) + gap

/-- Where the mark and the last run may lie while the pumps run, in a stretch that began at uptime
`t` and has won `extra` milliseconds by resumptions. -/
def InTime (t gap delayLow timeout extra : Nat) : LevelState → Nat → Nat → Prop
  | .refill, mark, last => mark ≤ t + extra ∧ last ≤ t + timeout + extra
  | .overrun, mark, last => mark ≤ t + timeout + gap + extra ∧ last ≤ mark + delayLow
  | _, _, _ => False

theorem InTime.last_le {t gap delayLow timeout extra mark last : Nat} {s : LevelState}
    (h : InTime t gap delayLow timeout extra s mark last) :
    last ≤ t + (timeout + delayLow + gap + extra) := by
  cases s <;> simp only [InTime] at h <;> omega

/-- A resumption wins a round: pumps that were in time in the overrun are in time in the refill. -/
theorem InTime.resume {t gap delayLow timeout k mark last now : Nat}
    (h : InTime t gap delayLow timeout (k * roundTime gap delayLow timeout) .overrun mark last)
    (hgap : now ≤ last + gap) :
    InTime t gap delayLow timeout ((k + 1) * roundTime gap delayLow timeout) .refill mark now := by
  have hround : roundTime gap delayLow timeout = max timeout (delayLow + gap) + gap := rfl
  rw [Nat.succ_mul]
  dsimp only [InTime] at h ⊢
  omega

/-- The pumps have run since run `m`, which was at uptime `t`, and they are in time. -/
def InStretch (c : SlotId) (events : List (Event δ)) (m t gap delayLow timeout i : Nat) : Prop :=
  ∃ j mark last, MarkedAt c events i j mark ∧ lastRun? events i = some last ∧
    InTime t gap delayLow timeout (resumptions c events m i * roundTime gap delayLow timeout)
      (ruleAt c events i).state mark.uptime last.2.uptime

/-! ## The first run -/

theorem le_of_not_exceeds {s t : Nat} {seconds : UInt16} (hle : s ≤ t)
    (hlt : t < s + UInt64.size)
    (h : exceeds (UInt64.ofNat s) (UInt64.ofNat t) seconds = false) :
    t ≤ s + 1000 * seconds.toNat :=
  Nat.not_lt.mp fun hlong => Bool.false_ne_true (h.symm.trans ((exceeds_ofNat hle hlt).mpr hlong))

/-- A run that was evaluated and ends in `overrun` lies at most `delayLow` behind the mark. -/
theorem uptime_le_of_overrun (hclock : Clocked events) {n j : Nat} {o mark : Occasion δ}
    (ho : events[n]? = some (.run o)) (hran : ((ruleAt c events n).runOn c o).1 ≠ .skipped)
    (hmark : MarkedAt c events (n + 1) j mark)
    (h : (ruleAt c events (n + 1)).state = .overrun) :
    o.uptime ≤ mark.uptime + 1000 * (ruleAt c events (n + 1)).delayLow.toNat := by
  obtain ⟨hj, hrun, hsince⟩ := hmark
  obtain ⟨hle, hlt⟩ := hclock.uptimes_of_le (Nat.le_of_lt_succ hj) hrun ho
  have hsucc : ruleAt c events (n + 1) = ((ruleAt c events n).runOn c o).2 := ruleAt_succ ho
  rw [hsucc] at h hsince ⊢
  rcases runOn_pumps (by rw [h]; rfl) with hskip | ⟨high, -, hrun⟩
  · rw [hskip] at hran
    exact absurd rfl hran
  · rcases hrun with ⟨-, -, hrun⟩ | ⟨hstate, -, -, hrun⟩ | ⟨-, -, hrun⟩ | ⟨-, -, hrun⟩ |
      ⟨-, -, hexc, hrun⟩ <;> rw [hrun] at h hsince ⊢
    · cases h
    · rw [hstate] at h
      cases h
    -- the mark is this very run
    · have hsize : UInt64.size = 18446744073709551616 := rfl
      have hmod := congrArg UInt64.toNat hsince
      dsimp only at hmod
      rw [UInt64.toNat_ofNat', UInt64.toNat_ofNat'] at hmod
      omega
    · cases h
    · rw [hsince] at hexc
      exact le_of_not_exceeds hle hlt hexc

/-- Right after the run that the stretch is counted from, the pumps are in time. -/
theorem inStretch_start (hclock : Clocked events) {m gap delayLow timeout : Nat}
    {start : Occasion δ} (hstart : events[m]? = some (.run start))
    (hran : ((ruleAt c events m).runOn c start).1 ≠ .skipped)
    (hpumps : (ruleAt c events (m + 1)).state.pumps = true)
    (hlow : 1000 * (ruleAt c events (m + 1)).delayLow.toNat = delayLow) :
    InStretch c events m start.uptime gap delayLow timeout (m + 1) := by
  obtain ⟨_, _, hm⟩ := pumping_since c events (m + 1) hpumps
  obtain ⟨j, mark, -, hmark⟩ := hm.mark
  have hle := (hclock.uptimes_of_le (Nat.le_of_lt_succ hmark.1) hmark.2.1 hstart).1
  refine ⟨j, mark, _, hmark, lastRun?_run hstart, ?_⟩
  rw [resumptions_start]
  rcases LevelState.pumps_iff.mp hpumps with hstate | hstate
  · rw [hstate]
    dsimp only [InTime]
    omega
  · have hlast := uptime_le_of_overrun hclock hstart hran hmark hstate
    rw [hstate]
    dsimp only [InTime]
    omega

/-! ## The runs after it -/

/-- What leaves the state and the mark alone and is no run keeps the pumps in time. -/
theorem InStretch.wait {m t gap delayLow timeout i : Nat}
    (h : InStretch c events m t gap delayLow timeout i)
    (hstate : (ruleAt c events (i + 1)).state = (ruleAt c events i).state)
    (hsince : (ruleAt c events (i + 1)).since = (ruleAt c events i).since)
    (hlast : lastRun? events (i + 1) = lastRun? events i) :
    InStretch c events m t gap delayLow timeout (i + 1) := by
  obtain ⟨j, mark, last, ⟨hj, hmark, hset⟩, hrun, htime⟩ := h
  refine ⟨j, mark, last, ⟨Nat.lt_succ_of_lt hj, hmark, hsince.trans hset⟩, hlast.trans hrun, ?_⟩
  rw [resumptions_succ_of_not m (not_resumes_of_state_eq hstate), hstate]
  exact htime

/-- **One more run**: while the pumps run on, they stay in time, and a resumption is counted. -/
theorem InStretch.run {m t gap delayLow timeout i : Nat} {o : Occasion δ}
    (h : InStretch c events m t gap delayLow timeout i) (hm : m < i) (hclock : Clocked events)
    (hspaced : Spaced events gap) (ho : events[i]? = some (.run o))
    (hran : ((ruleAt c events i).runOn c o).1 ≠ .skipped)
    (hpumps : (ruleAt c events (i + 1)).state.pumps = true)
    (hlow : 1000 * (ruleAt c events i).delayLow.toNat = delayLow)
    (htimeout : 1000 * (ruleAt c events i).timeout.toNat = timeout) :
    InStretch c events m t gap delayLow timeout (i + 1) := by
  obtain ⟨j, mark, last, ⟨hj, hmark, hsince⟩, hlast, htime⟩ := h
  have hgap := hspaced.apply ho last hlast
  obtain ⟨hle, hlt⟩ := hclock.uptimes hj hmark ho
  have hsucc : ruleAt c events (i + 1) = ((ruleAt c events i).runOn c o).2 := ruleAt_succ ho
  rw [hsucc] at hpumps
  -- every case but the third leaves the mark where it is
  have unmoved (h : ((ruleAt c events i).runOn c o).2.since = (ruleAt c events i).since) :
      MarkedAt c events (i + 1) j mark :=
    ⟨Nat.lt_succ_of_lt hj, hmark, by rw [hsucc, h, hsince]⟩
  rcases runOn_pumps hpumps with hskip | ⟨high, -, hrun⟩
  · rw [hskip] at hran
    exact absurd rfl hran
  rcases hrun with ⟨hstate, -, -⟩ | ⟨hstate, -, hexc, hrun⟩ | ⟨hstate, -, hrun⟩ |
    ⟨hstate, -, hrun⟩ | ⟨hstate, -, hexc, hrun⟩ <;> rw [hstate] at htime
  · exact htime.elim
  · refine ⟨j, mark, _, unmoved (by rw [hrun]), lastRun?_run ho, ?_⟩
    rw [resumptions_succ_of_not m (not_resumes_of_refill hstate), hsucc, hrun, hstate]
    have hnow := le_of_not_exceeds hle hlt (hsince ▸ hexc)
    dsimp only [InTime] at htime ⊢
    omega
  · refine ⟨i, o, _, ⟨Nat.lt_succ_self i, ho, by rw [hsucc, hrun]⟩, lastRun?_run ho, ?_⟩
    rw [resumptions_succ_of_not m (not_resumes_of_refill hstate), hsucc, hrun]
    dsimp only [InTime] at htime ⊢
    omega
  · refine ⟨j, mark, _, unmoved (by rw [hrun]), lastRun?_run ho, ?_⟩
    rw [resumptions_succ hm ⟨hstate, by rw [hsucc, hrun]⟩, hsucc, hrun]
    exact htime.resume hgap
  · refine ⟨j, mark, _, unmoved (by rw [hrun]), lastRun?_run ho, ?_⟩
    rw [resumptions_succ_of_not m (not_resumes_of_state_eq (by rw [hsucc, hrun])), hsucc, hrun,
      hstate]
    have hnow := le_of_not_exceeds hle hlt (hsince ▸ hexc)
    dsimp only [InTime] at htime ⊢
    omega

/-- No run takes a rule from `ok` to where the pumps run. -/
theorem pumps_of_ok {r : TopUp} {o : Occasion δ} (h : r.state = .ok) :
    (r.runOn c o).2.state.pumps = false := by
  refine Bool.eq_false_iff.mpr fun hpumps => ?_
  rcases runOn_pumps hpumps with hrun | ⟨high, -, hrun⟩
  · rw [hrun, h] at hpumps
    cases hpumps
  · rw [h] at hrun
    rcases hrun with ⟨hstate, -⟩ | ⟨hstate, -⟩ | ⟨hstate, -⟩ | ⟨hstate, -⟩ | ⟨hstate, -⟩ <;>
      cases hstate

/-- **The invariant of a stretch.**  As long as every run ends with the pumps to run, they are in
time, or a reset has come that no run has followed yet. -/
theorem ok_or_inStretch (hclock : Clocked events) (hnever : NeverSkipped c events)
    {m n gap delayLow timeout : Nat} (hspaced : Spaced events gap) {start : Occasion δ}
    (hstart : events[m]? = some (.run start))
    (hset : ∀ i, m < i → i ≤ n → 1000 * (ruleAt c events i).delayLow.toNat = delayLow ∧
      1000 * (ruleAt c events i).timeout.toNat = timeout)
    (hpumps : ∀ i, m ≤ i → i ≤ n → ∀ o, events[i]? = some (.run o) →
      (ruleAt c events (i + 1)).state.pumps = true)
    (hmn : m < n) (i : Nat) (hm : m + 1 ≤ i) (hi : i ≤ n + 1) :
    (ruleAt c events i).state = .ok ∨
      InStretch c events m start.uptime gap delayLow timeout i := by
  induction i, hm using Nat.le_induction with
  | base =>
    exact .inr (inStretch_start hclock hstart (hnever.apply hstart)
      (hpumps m (Nat.le_refl m) (Nat.le_of_lt hmn) start hstart)
      (hset (m + 1) (Nat.lt_succ_self m) hmn).1)
  | succ i hm ih =>
    have hin : i ≤ n := Nat.le_of_succ_le_succ hi
    have hbefore := ih (Nat.le_succ_of_le hin)
    rcases run_or_quiet c events i with ⟨o, ho⟩ | ⟨-, hlast, hok | ⟨hstate, hsince, -⟩⟩
    · have hnext := hpumps i (Nat.le_of_lt hm) hin o ho
      rcases hbefore with hok | hstretch
      · rw [ruleAt_succ ho, after, pumps_of_ok hok] at hnext
        cases hnext
      · obtain ⟨hlow, htimeout⟩ := hset i hm hin
        exact .inr (hstretch.run hm hclock hspaced ho (hnever.apply ho) hnext hlow htimeout)
    · exact .inl hok
    · exact hbefore.imp hstate.trans (·.wait hstate hsince hlast)

/-! ## Flutter -/

/-- No time is measured at a reading that interrupts a refill or resumes it. -/
theorem pumps_next_of_turn {r : TopUp} (h : r.state.pumps = true) (now : UInt64) :
    (r.next (decide (r.state = .overrun)) now).state.pumps = true := by
  rcases LevelState.pumps_iff.mp h with hstate | hstate <;>
    simp [next, hstate, LevelState.pumps]

/-- **A fluttering float switch keeps the pumps running.**  Once the pumps run, they run for as long
as the readings interrupt the refill and resume it in turn, whatever the settings are and however
much time passes. -/
theorem pumps_of_flutter {m n : Nat} (hmn : m ≤ n)
    (h : (ruleAt c events m).state.pumps = true)
    (hflutter : ∀ i, m ≤ i → i < n → ∃ o, events[i]? = some (.run o) ∧
      o.Reads (ruleAt c events i).sensor (decide ((ruleAt c events i).state = .overrun))) :
    (ruleAt c events n).state.pumps = true := by
  induction n, hmn using Nat.le_induction with
  | base => exact h
  | succ n hmn ih =>
    have hn := ih fun i hi hin => hflutter i hi (Nat.lt_succ_of_lt hin)
    obtain ⟨o, ho, hreads⟩ := hflutter n hmn (Nat.lt_succ_self n)
    have hstate : (ruleAt c events n).state ≠ .timedOut := fun hstop => by
      rw [hstop] at hn
      cases hn
    rw [ruleAt_succ ho, after, runOn_of_reads hstate hreads]
    exact pumps_next_of_turn hn _

/-! ## Stretches -/

/-- After a run that leaves its group on, the state is one in which the pumps are to run. -/
theorem pumps_of_onAfter (hgroup : Undisturbed c events)
    (hworks : Drivers c Actuator.Working events) {n : Nat} {o : Occasion δ}
    (ho : events[n]? = some (.run o)) (hran : ((ruleAt c events n).runOn c o).1 ≠ .skipped)
    (h : OnAfter c events n o) : (ruleAt c events (n + 1)).state.pumps = true := by
  obtain ⟨id, hid, hon⟩ := h
  rw [← hon]
  exact (groupAt_of_not_skipped hgroup hworks ho hran id
    ((mem_assignedIds_plantOn _ c o id).mpr hid)).symm

/-- **The pumps stop in time, or a refill was resumed.**  If the group is on after a run, after a
later one and after every run in between, then the time between the two is at most `timeout` and
`delayLow` and the longest gap between two runs, and a round more for each time that an interrupted
refill was resumed in between. -/
theorem pumping_time_le (hclock : Clocked events) (hgroup : Undisturbed c events)
    (hworks : Drivers c Actuator.Working events) (hnever : NeverSkipped c events) {gap : Nat}
    (hspaced : Spaced events gap) {m n : Nat} (hmn : m ≤ n) {start o : Occasion δ}
    (hstart : events[m]? = some (.run start)) (ho : events[n]? = some (.run o))
    {delayLow timeout : UInt16}
    (hset : ∀ i, m < i → i ≤ n → (ruleAt c events i).delayLow = delayLow ∧
      (ruleAt c events i).timeout = timeout)
    (hon : ∀ i, m ≤ i → i ≤ n → ∀ o', events[i]? = some (.run o') → OnAfter c events i o') :
    o.uptime ≤ start.uptime + (1000 * (timeout.toNat + delayLow.toNat) + gap +
      resumptions c events m (n + 1) *
        roundTime gap (1000 * delayLow.toNat) (1000 * timeout.toNat)) := by
  rcases Nat.eq_or_lt_of_le hmn with rfl | hlt
  · obtain rfl : start = o := by simpa [hstart] using ho
    exact Nat.le_add_right _ _
  have hpumps (i : Nat) (hm : m ≤ i) (hi : i ≤ n) (o' : Occasion δ)
      (ho' : events[i]? = some (.run o')) : (ruleAt c events (i + 1)).state.pumps = true :=
    pumps_of_onAfter hgroup hworks ho' (hnever.apply ho') (hon i hm hi o' ho')
  have hstretch : InStretch c events m start.uptime gap (1000 * delayLow.toNat)
      (1000 * timeout.toNat) (n + 1) := by
    refine (ok_or_inStretch hclock hnever hspaced hstart (fun i hm hi => ?_) hpumps hlt (n + 1)
      (Nat.succ_le_succ hmn) (Nat.le_refl _)).resolve_left fun hok => ?_
    · rw [(hset i hm hi).1, (hset i hm hi).2]
      exact ⟨rfl, rfl⟩
    · have hfinal := hpumps n hmn (Nat.le_refl n) o ho
      rw [hok] at hfinal
      cases hfinal
  obtain ⟨j, mark, last, -, hlast, htime⟩ := hstretch
  obtain rfl : (n, o) = last := Option.some.inj ((lastRun?_run ho).symm.trans hlast)
  rw [Nat.mul_add]
  exact htime.last_le

/-- A refill that starts at 10 s; every 10 s after that it is interrupted or resumed. -/
def flutter : List (Event Relay) :=
  [.set (.sensor (.ofNat 0)),
    .run (scene 0 true [false] .none),
    .run (scene 10000 true [false] .none),
    .run (scene 20000 false [true] .none),
    .run (scene 30000 true [true] .none),
    .run (scene 40000 false [true] .none),
    .run (scene 50000 true [true] .none),
    .run (scene 60000 false [true] .none),
    .run (scene 70000 true [true] .none)]

theorem clocked_flutter : Clocked flutter := by
  simp [Clocked, flutter, Event.occasion?, scene, look, UInt64.size]

theorem settings_flutter : ∀ i, 2 < i → i ≤ 8 →
    (ruleAt (.ofNat 0) flutter i).delayLow = 10 ∧ (ruleAt (.ofNat 0) flutter i).timeout = 30 := by
  have h : ∀ i < 9, (ruleAt (.ofNat 0) flutter i).delayLow = 10 ∧
    (ruleAt (.ofNat 0) flutter i).timeout = 30 := by decide
  exact fun i _ hi => h i (Nat.lt_succ_of_le hi)

theorem on_flutter : ∀ i, 2 ≤ i → i ≤ 8 → ∀ o, flutter[i]? = some (.run o) →
    OnAfter (.ofNat 0) flutter i o := by
  have h : EachRun flutter fun i o => 2 ≤ i → OnAfter (.ofNat 0) flutter i o := by decide
  exact fun i hi _ o ho => h.apply ho hi

theorem flutter_wins_three_rounds :
    resumptions (.ofNat 0) flutter 2 9 = 3 ∧
    70000 ≤ 10000 + (1000 * (30 + 10) + 10000 + 3 * roundTime 10000 10000 30000) := by
  have hcount : resumptions (.ofNat 0) flutter 2 9 = 3 := by decide
  have hle := pumping_time_le clocked_flutter (by decide : Undisturbed (.ofNat 0) flutter)
    (drivers_working (by decide)) (by decide : NeverSkipped (.ofNat 0) flutter)
    (by decide : Spaced flutter 10000) (by decide : 2 ≤ 8) rfl rfl settings_flutter on_flutter
  rw [hcount] at hle
  exact ⟨hcount, hle⟩

/-- **A flutter outlasts the limit.**  After all runs from 10 s to 70 s the pump is on, which is
10 s longer than `timeout`, `delayLow` and the gap between two runs together. -/
theorem flutter_outlasts_limit :
    Clocked flutter ∧ Undisturbed (.ofNat 0) flutter ∧
    Drivers (.ofNat 0) Actuator.Working flutter ∧ NeverSkipped (.ofNat 0) flutter ∧
    Spaced flutter 10000 ∧
    (∀ i, 2 < i → i ≤ 8 → (ruleAt (.ofNat 0) flutter i).delayLow = 10 ∧
      (ruleAt (.ofNat 0) flutter i).timeout = 30) ∧
    flutter[2]? = some (.run (scene 10000 true [false] .none)) ∧
    flutter[8]? = some (.run (scene 70000 true [true] .none)) ∧
    (∀ i, 2 ≤ i → i ≤ 8 → ∀ o, flutter[i]? = some (.run o) → OnAfter (.ofNat 0) flutter i o) ∧
    10000 + (1000 * (30 + 10) + 10000) < 70000 :=
  ⟨clocked_flutter, by decide, drivers_working (by decide), by decide, by decide,
    settings_flutter, rfl, rfl, on_flutter, by decide⟩

end TopUp

end AquariumControl
