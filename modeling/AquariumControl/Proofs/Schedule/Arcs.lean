import AquariumControl.Rule.Schedule

/-!
# Windows are arcs of the daily circle

Whether a window holds a minute is decided by comparing it with both ends, in one of two ways.  Both
say the same: that the way from the start to the minute, round the circle of 1440 minutes, is
shorter than that from the start to the end.  The minute and the weekday are taken from a count of
seconds, which is once more a matter of remainders.

* `OnArc` — the way round the circle; `TimeWindow.contains_iff` — a window is an arc.
* `TimeOfDay.ofUnix_trusted` — the minute and the weekday as remainders.
* `Timer.Plan` — the numbers that a timer was given; `Timer.Planned` — all the ways it is given
  them.
* `Timer.wants_on_arcs` — when a timer wants its actuator on, in terms of the seconds and of those
  numbers.
-/

set_option autoImplicit false

namespace AquariumControl

/-! ## One window -/

/-- Minute `m` lies on the arc of the daily circle that leads from minute `s` to minute `e`. -/
def OnArc (s e m : Int) : Prop :=
  (m - s) % 1440 < (e - s) % 1440

instance (s e m : Int) : Decidable (OnArc s e m) :=
  inferInstanceAs (Decidable (_ < _))

namespace TimeWindow

/-- **A window is an arc**, whether or not it lies across midnight. -/
theorem contains_iff (w : TimeWindow) {m : Nat} (hm : m < minutesPerDay) :
    w.contains m = true ↔ OnArc w.start w.stop m := by
  obtain ⟨⟨s, hs⟩, ⟨e, he⟩⟩ := w
  have hday : minutesPerDay = 1440 := rfl
  rw [contains, OnArc]
  dsimp only
  split <;> rw [decide_eq_true_eq] <;> omega

/-- **Two ends that differ split the day** into two windows. -/
theorem contains_swap {s e : Fin minutesPerDay} (h : s ≠ e) (m : Nat) :
    (mk e s).contains m = !(mk s e).contains m := by
  have hne : s.val ≠ e.val := fun heq => h (Fin.ext heq)
  rw [Bool.eq_iff_iff, Bool.not_eq_true', ← Bool.not_eq_true, contains, contains]
  dsimp only
  split <;> split <;> simp only [decide_eq_true_eq] <;> omega

theorem minute?_eq_some {hour minute : Nat} {m : Fin minutesPerDay}
    (h : minute? hour minute = some m) : m.val = 60 * hour + minute := by
  rw [minute?] at h
  split at h
  · rw [← Option.some.inj h]
    exact congrArg (· + minute) (Nat.mul_comm hour 60)
  · cases h

theorem ofClock?_eq_some {startHour startMinute stopHour stopMinute : Nat} {w : TimeWindow}
    (h : ofClock? startHour startMinute stopHour stopMinute = some w) :
    w.start.val = 60 * startHour + startMinute ∧ w.stop.val = 60 * stopHour + stopMinute := by
  obtain ⟨start, hstart, hrest⟩ := Option.bind_eq_some_iff.mp h
  obtain ⟨stop, hstop, hw⟩ := Option.bind_eq_some_iff.mp hrest
  obtain rfl := Option.some.inj hw
  exact ⟨minute?_eq_some hstart, minute?_eq_some hstop⟩

end TimeWindow

/-! ## The clock -/

/-- Since 2020 every second has a time of day: the minute of the day and the weekday are the
remainders of the minutes and of the days. -/
theorem TimeOfDay.ofUnix_trusted {seconds : Int} (h : earliestTrusted ≤ seconds) :
    ∃ now, ofUnix seconds = some now ∧ now.hour < 24 ∧ now.minute < 60 ∧ now.weekday < 7 ∧
      (now.minuteOfDay : Int) = seconds / 60 % 1440 ∧
      now.weekday = ((seconds / 86400 + 3) % 7).toNat := by
  have hdays : seconds.fdiv 86400 = seconds / 86400 := Int.fdiv_eq_ediv_of_nonneg _ (by decide)
  have hrest : seconds.fmod 86400 = seconds % 86400 := Int.fmod_eq_emod_of_nonneg _ (by decide)
  have hweekday : (seconds / 86400 + 3).fmod 7 = (seconds / 86400 + 3) % 7 :=
    Int.fmod_eq_emod_of_nonneg _ (by decide)
  have hyear : earliestTrusted = 1577836800 := rfl
  refine ⟨_, if_neg (Int.not_lt.mpr h), ?_⟩
  simp only [minuteOfDay, hdays, hrest, hweekday, and_true]
  -- from here on there is one kind of remainder
  clear hdays hrest hweekday
  exact ⟨by omega, by omega, by omega, by omega⟩

/-! ## One timer -/

namespace Timer

/-- The numbers that a timer was given: a mask of weekdays, and the minutes of the day at which its
windows begin and end. -/
structure Plan where
  mask : Nat
  windows : List (Nat × Nat)

/-- The plan asks for the actuator to be on at a number of seconds since 1970-01-01. -/
def Plan.Wants (p : Plan) (seconds : Int) : Prop :=
  p.mask.testBit ((seconds / 86400 + 3) % 7).toNat = true ∧
    ∃ w ∈ p.windows, OnArc w.1 w.2 (seconds / 60 % 1440)

/-- The ways in which a timer comes to its plan: it is fresh, it is changed by a setter, it was
accepted from a record, or it has been evaluated or reset, which is no change of the plan. -/
inductive Planned : Timer → Plan → Prop
  | default : Planned default ⟨0x7F, List.replicate windowsPerTimer (0, 0)⟩
  | actuator {t : Timer} {p : Plan} (h : Planned t p) (id : SlotId) :
    Planned { t with actuator := id } p
  | weekdays {t : Timer} {p : Plan} (h : Planned t p) (mask : UInt8) :
    Planned (t.setWeekdays mask) { p with mask := mask.toNat &&& 0x7F }
  /-- A window that does not exist changes nothing. -/
  | window {t : Timer} {p : Plan} (h : Planned t p) (index : Nat)
    {startHour startMinute stopHour stopMinute : Nat} {w : TimeWindow}
    (hw : TimeWindow.ofClock? startHour startMinute stopHour stopMinute = some w) :
    Planned (t.setWindow index w).2
      { p with windows :=
          p.windows.set index (60 * startHour + startMinute, 60 * stopHour + stopMinute) }
  | accepted {bytes : List UInt8} {s : Schedule} {used used' index : Nat}
    {stored : Vector StoredTimer timersPerSchedule} (hindex : index < timersPerSchedule)
    (hload : Schedule.load bytes = .ok (s, used))
    (hstored : Reader.decode (Wire.readVector StoredTimer.read timersPerSchedule) bytes =
      .ok (stored, used')) :
    Planned s.channels[index].timer
      ⟨stored[index].weekdays.toNat,
        stored[index].windows.toList.map fun w => (w.1.toNat, w.2.toNat)⟩
  | evaluated {t : Timer} {p : Plan} (h : Planned t p) (active : Bool) :
    Planned { t with active := active } p

/-- A record that is accepted gives every timer a plan. -/
theorem exists_planned_of_load {bytes : List UInt8} {s : Schedule} {used index : Nat}
    (hload : Schedule.load bytes = .ok (s, used)) (hindex : index < timersPerSchedule) :
    ∃ p, s.channels[index].timer.Planned p := by
  have hdecode := hload
  rw [Schedule.load] at hdecode
  split at hdecode
  · cases hdecode
  · next hstored => exact ⟨_, .accepted hindex hload hstored⟩

/-- The numbers that are in a timer. -/
def plan (t : Timer) : Plan :=
  ⟨t.weekdays.val, t.windows.toList.map fun w => (w.start.val, w.stop.val)⟩

theorem plan_timer {stored : StoredTimer} (h : stored.isValid = true) :
    stored.timer.plan = ⟨stored.weekdays.toNat,
      stored.windows.toList.map fun w => (w.1.toNat, w.2.toNat)⟩ := by
  rw [StoredTimer.isValid, Bool.and_eq_true, decide_eq_true_eq, ← Vector.all_toList,
    List.all_eq_true] at h
  obtain ⟨hmask, hwindows⟩ := h
  rw [plan, StoredTimer.timer]
  dsimp only
  rw [Nat.mod_eq_of_lt hmask, Vector.toList_map, List.map_map]
  congr 1
  refine List.map_congr_left fun w hw => ?_
  have hvalid := hwindows w hw
  rw [Bool.and_eq_true, decide_eq_true_eq, decide_eq_true_eq] at hvalid
  exact Prod.ext (Nat.mod_eq_of_lt hvalid.1) (Nat.mod_eq_of_lt hvalid.2)

/-- **The plan is what the timer goes by**, however it came to it. -/
theorem Planned.eq {t : Timer} {p : Plan} (h : t.Planned p) : p = t.plan := by
  induction h with
  | default => rfl
  | actuator h id ih => exact ih
  | weekdays h mask ih =>
    rw [ih]
    refine congrArg (Plan.mk · _) ?_
    exact Nat.and_two_pow_sub_one_eq_mod mask.toNat 7
  | @window t p h index _ _ _ _ w hw ih =>
    obtain ⟨hstart, hstop⟩ := TimeWindow.ofClock?_eq_some hw
    rw [ih, setWindow]
    split
    · rw [plan, plan, Vector.toList_set, List.map_set, hstart, hstop]
    · next hindex =>
      refine congrArg (Plan.mk _) (List.set_eq_of_length_le ?_)
      rw [plan, List.length_map, Vector.length_toList]
      exact Nat.le_of_not_lt hindex
  | @accepted bytes s used used' index stored hindex hload hstored =>
    rw [Schedule.load, hstored] at hload
    dsimp only at hload
    split at hload
    · next hvalid =>
      obtain ⟨rfl, -⟩ := Prod.mk.inj (Except.ok.inj hload)
      rw [Vector.all_eq_true] at hvalid
      rw [← plan_timer (hvalid index hindex)]
      simp only [Vector.getElem_map]
    · cases hload
  | evaluated h active ih => exact ih

/-- A timer goes by its plan. -/
theorem wantsOn_iff (t : Timer) {seconds : Int} {now : TimeOfDay}
    (hminute : (now.minuteOfDay : Int) = seconds / 60 % 1440)
    (hweekday : now.weekday = ((seconds / 86400 + 3) % 7).toNat) :
    t.wantsOn now = true ↔ t.plan.Wants seconds := by
  have hday : now.minuteOfDay < minutesPerDay := by
    have hday : minutesPerDay = 1440 := rfl
    omega
  rw [wantsOn, Bool.and_eq_true, Plan.Wants, ← hweekday, ← hminute, ← Vector.any_toList,
    List.any_eq_true]
  refine and_congr_right fun _ => ⟨fun ⟨w, hw, hin⟩ => ?_, fun ⟨_, hmem, harc⟩ => ?_⟩
  · exact ⟨_, List.mem_map_of_mem hw, (w.contains_iff hday).mp hin⟩
  · obtain ⟨w, hw, rfl⟩ := List.mem_map.mp hmem
    exact ⟨w, hw, (w.contains_iff hday).mpr harc⟩

/-- **Schedules are arcs on the daily circle.**  Since 2020 every second has a time of day, and if
the seconds are counted in 64 bits no number on the way to it is out of range.  A timer that was
given its numbers in any way, which are then a set of weekdays and minutes of the day, wants its
actuator on at that time just if the weekday is in the set and the minute lies on the arc of one of
its windows.  Two ends that differ split every day exactly. -/
theorem wants_on_arcs {t : Timer} {p : Plan} (h : t.Planned p) {seconds : Int}
    (hset : TimeOfDay.earliestTrusted ≤ seconds) :
    (p.mask < 128 ∧ ∀ w ∈ p.windows, w.1 < 1440 ∧ w.2 < 1440) ∧
    (seconds < 0x8000000000000000 →
      0 ≤ seconds.fdiv 86400 ∧ seconds.fdiv 86400 + 3 < 0x8000000000000000) ∧
    (∃ now, TimeOfDay.ofUnix seconds = some now ∧
      now.hour < 24 ∧ now.minute < 60 ∧ now.weekday < 7 ∧ now.minuteOfDay < 1440 ∧
      (t.wantsOn now = true ↔
        p.mask.testBit ((seconds / 86400 + 3) % 7).toNat = true ∧
          ∃ w ∈ p.windows, OnArc w.1 w.2 (seconds / 60 % 1440))) ∧
    ∀ s e : Fin minutesPerDay, s ≠ e → ∀ m,
      (TimeWindow.mk e s).contains m = !(TimeWindow.mk s e).contains m := by
  obtain ⟨now, hnow, hhour, hminute, hweekday, hday, hbit⟩ := TimeOfDay.ofUnix_trusted hset
  obtain rfl := h.eq
  have hyear : TimeOfDay.earliestTrusted = 1577836800 := rfl
  refine ⟨⟨t.weekdays.isLt, fun w hw => ?_⟩, fun hlt => ?_, ⟨now, hnow, hhour, hminute, hweekday,
    by omega, t.wantsOn_iff hday hbit⟩, fun s e hne m => TimeWindow.contains_swap hne m⟩
  · obtain ⟨v, -, rfl⟩ := List.mem_map.mp hw
    exact ⟨v.start.isLt, v.stop.isLt⟩
  · rw [Int.fdiv_eq_ediv_of_nonneg _ (by decide)]
    omega

/-- A lamp for Monday nights, from ten in the evening to six in the morning; the mask and the first
window are set, and the eighth bit means nothing. -/
def nightLamp : Timer :=
  ((default.setWeekdays 0x81).setWindow 0 ⟨⟨1320, by decide⟩, ⟨360, by decide⟩⟩).2

/-- On Monday 2020-01-06 the lamp is to be on at half past eleven in the evening, and an hour later,
on Tuesday, it is not. -/
theorem night_lamp_burns :
    TimeOfDay.earliestTrusted ≤ 1578353400 ∧
      nightLamp.Planned ⟨1, [(1320, 360), (0, 0), (0, 0), (0, 0)]⟩ ∧
      (∃ now, TimeOfDay.ofUnix 1578353400 = some now ∧ nightLamp.wantsOn now = true) ∧
      (∃ now, TimeOfDay.ofUnix 1578357000 = some now ∧ nightLamp.wantsOn now = false) ∧
      (1578353400 : Int).fdiv 86400 + 3 < 0x8000000000000000 ∧
      ∀ m, (TimeWindow.mk ⟨360, by decide⟩ ⟨1320, by decide⟩).contains m =
        !(TimeWindow.mk ⟨1320, by decide⟩ ⟨360, by decide⟩).contains m := by
  have hplanned : nightLamp.Planned ⟨1, [(1320, 360), (0, 0), (0, 0), (0, 0)]⟩ :=
    .window (.weekdays .default 0x81) 0 (show TimeWindow.ofClock? 22 0 6 0 = some _ from rfl)
  have hset : TimeOfDay.earliestTrusted ≤ 1578353400 := by decide
  obtain ⟨-, hrange, ⟨now, hnow, -, -, -, -, hwants⟩, hsplit⟩ := wants_on_arcs hplanned hset
  obtain ⟨-, -, ⟨later, hlater, -, -, -, -, hrests⟩, -⟩ :=
    wants_on_arcs hplanned (show TimeOfDay.earliestTrusted ≤ 1578357000 by decide)
  refine ⟨hset, hplanned, ⟨now, hnow, hwants.mpr (by decide)⟩, ⟨later, hlater, ?_⟩,
    (hrange (by decide)).2, hsplit _ _ (by decide)⟩
  rw [← Bool.not_eq_true, hrests]
  decide

end Timer

end AquariumControl
