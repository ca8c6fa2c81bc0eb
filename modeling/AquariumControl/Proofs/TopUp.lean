import AquariumControl.Bench.Rig
import AquariumControl.Proofs.Plant
import AquariumControl.Rule.TopUp

/-!
# A wave starts no refill

A top-up rule waits in `debounce` before it refills.  Whether the water was low for all that time
is a question about its history: runs with and without a reading, resets, new settings and loaded
records, in any order.

* `TopUp.next` and `TopUp.order?` — one evaluation as a function of the reading and the uptime: the
  rule after it, and the command to the group, if there is one.  What the drivers answer has no
  influence on either (`TopUp.run_cases`).
* `TopUp.Event` and `TopUp.ruleAt` — a history as a list of events, and the rule after so many of
  them.
* `TopUp.debounce_since` — the invariant: in `debounce`, `since` is the uptime of an earlier run
  from which on all readings were HIGH.
-/

set_option autoImplicit false

namespace AquariumControl

namespace TopUp

variable {δ : Type} [Actuator δ]

/-! ## One evaluation -/

/-- The rule after one evaluation. -/
def next (r : TopUp) (high : Bool) (now : UInt64) : TopUp :=
  match r.state with
  | .ok => if high then { r with state := .debounce, since := now } else r
  | .debounce =>
    if !high then { r with state := .ok }
    else if exceeds r.since now r.delayHigh then { r with state := .refill, since := now }
    else r
  | .refill =>
    if !high then { r with state := .overrun, since := now }
    else if exceeds r.since now r.timeout then { r with state := .timedOut }
    else r
  | .overrun =>
    if high then { r with state := .refill }
    else if exceeds r.since now r.delayLow then { r with state := .ok }
    else r
  | .timedOut => r

/-- The level that one evaluation commands the group to, if it commands it. -/
def order? (r : TopUp) (high : Bool) (now : UInt64) : Option Bool :=
  match r.state with
  | .ok => some false
  | .debounce => if high && exceeds r.since now r.delayHigh then some true else none
  | .refill => if high && exceeds r.since now r.timeout then some false else none
  | .overrun => if !high && exceeds r.since now r.delayLow then some false else none
  | .timedOut => none

/-- Whatever the drivers answer, an evaluation ends in the next rule. -/
theorem perform_step (r : TopUp) (high : Bool) (now : UInt64) (c : SlotId) (p : Plant δ) :
    ((r.step high now).perform c p).1 = r.next high now := by
  rw [step, next]
  cases r.state <;> dsimp only
  · simp
  · split
    · rfl
    · split <;> simp
  · split
    · rfl
    · split <;> simp
  · split
    · rfl
    · split <;> simp
  · rfl

/-- An evaluation gives at most one command, to the whole group. -/
theorem requests_step (r : TopUp) (high : Bool) (now : UInt64) (c : SlotId) (p : Plant δ) :
    ((r.step high now).requests c p).map Request.level = (r.order? high now).toList := by
  rw [step, order?]
  cases r.state <;> dsimp only
  · simp [Request.level]
  · cases high
    · rfl
    · cases exceeds r.since now r.delayHigh <;> simp [Request.level]
  · cases high
    · rfl
    · cases exceeds r.since now r.timeout <;> simp [Request.level]
  · cases high
    · cases exceeds r.since now r.delayLow <;> simp [Request.level]
    · rfl
  · rfl

/-- **Everything a run can do**: it is latched, it is skipped for want of a reading, or it
evaluates its reading. -/
theorem run_cases (r : TopUp) (s : Situation) (c : SlotId) (p : Plant δ) :
    (r.state = .timedOut ∧ ((r.run s).perform c p).1 = (.latched, r) ∧
      (r.run s).requests c p = []) ∨
    (s.readings.get? r.sensor = none ∧ ((r.run s).perform c p).1 = (.skipped, r) ∧
      (r.run s).requests c p = []) ∨
    ∃ x, r.state ≠ .timedOut ∧ s.readings.get? r.sensor = some x ∧
      ((r.run s).perform c p).1 = (.ran, r.next (Binary.zero.lt x) s.uptime) ∧
      ((r.run s).requests c p).map Request.level =
        (r.order? (Binary.zero.lt x) s.uptime).toList := by
  rw [run]
  by_cases hstate : r.state = .timedOut
  · rw [if_pos hstate]
    exact .inl ⟨hstate, rfl, rfl⟩
  · rw [if_neg hstate]
    cases hx : s.readings.get? r.sensor with
    | none => exact .inr (.inl ⟨rfl, rfl, rfl⟩)
    | some x =>
      refine .inr (.inr ⟨x, hstate, rfl, ?_, ?_⟩)
      · simp [perform_step]
      · simp [requests_step]

/-- What is in `debounce` now came there by this very evaluation, or stays there; either way the
reading was HIGH. -/
theorem of_next_debounce {r : TopUp} {high : Bool} {now : UInt64}
    (h : (r.next high now).state = .debounce) :
    high = true ∧ ((r.next high now).since = now ∨
      r.state = .debounce ∧ (r.next high now).since = r.since) := by
  rw [next] at h ⊢
  cases hstate : r.state <;> simp only [hstate] at h ⊢
  · cases high
    · simp [hstate] at h
    · exact ⟨rfl, .inl rfl⟩
  · cases high
    · cases h
    · cases hexc : exceeds r.since now r.delayHigh
      · exact ⟨rfl, .inr ⟨trivial, rfl⟩⟩
      · simp [hexc] at h
  · cases high
    · cases h
    · cases hexc : exceeds r.since now r.timeout <;> simp [hexc, hstate] at h
  · cases high
    · cases hexc : exceeds r.since now r.delayLow <;> simp [hexc, hstate] at h
    · cases h
  · cases h

/-- A refill starts in `debounce`, with a HIGH reading and the waiting time over. -/
theorem of_next_refill {r : TopUp} {high : Bool} {now : UInt64} (hstate : r.state = .debounce)
    (h : (r.next high now).state = .refill) :
    high = true ∧ exceeds r.since now r.delayHigh = true := by
  rw [next] at h
  cases high <;> cases hexc : exceeds r.since now r.delayHigh <;>
    simp [hstate, hexc] at h ⊢

/-- The group is commanded on just when a refill starts. -/
theorem order?_eq_on_iff {r : TopUp} {high : Bool} {now : UInt64} :
    r.order? high now = some true ↔
      r.state = .debounce ∧ (r.next high now).state = .refill := by
  rw [order?, next]
  cases hstate : r.state <;> simp only [hstate]
  · simp
  · cases high <;> cases hexc : exceeds r.since now r.delayHigh <;> simp [hstate]
  · cases high <;> cases hexc : exceeds r.since now r.timeout <;> simp
  · cases high <;> cases hexc : exceeds r.since now r.delayLow <;> simp
  · simp

/-! ## Histories -/

/-- What a run finds: the uptime, counted without a limit, the readings, the time of day, and the
plant, whose drivers may do anything. -/
structure Occasion (δ : Type) where
  uptime : Nat
  readings : Readings
  timeOfDay : Option TimeOfDay
  plant : Plant δ

/-- What the rule is shown of an occasion: the uptime modulo `2 ^ 64`. -/
def Occasion.situation (o : Occasion δ) (c : SlotId) : Situation :=
  ⟨c, o.readings, UInt64.ofNat o.uptime, o.timeOfDay⟩

/-- Everything that can happen to a top-up rule. -/
inductive Event (δ : Type)
  | run (o : Occasion δ)
  | reset
  | set (x : Setting)
  | load (bytes : List UInt8)

def Event.occasion? : Event δ → Option (Occasion δ)
  | .run o => some o
  | _ => none

/-- How a run of controller `c` on an occasion ends, and the rule after it. -/
def runOn (r : TopUp) (c : SlotId) (o : Occasion δ) : RunStatus × TopUp :=
  ((r.run (o.situation c)).perform c o.plant).1

/-- The rule after an event.  A record that is refused changes nothing. -/
def after (c : SlotId) (r : TopUp) : Event δ → TopUp
  | .run o => (r.runOn c o).2
  | .reset => r.reset
  | .set x => r.set x
  | .load bytes =>
    match Rule.load r bytes with
    | .ok (r', _) => r'
    | .error _ => r

/-- A fresh rule after the first `n` events. -/
def ruleAt (c : SlotId) (events : List (Event δ)) (n : Nat) : TopUp :=
  (events.take n).foldl (after c) default

/-- Uptimes do not decrease, and the whole history is shorter than a turn of the counter. -/
def Clocked (events : List (Event δ)) : Prop :=
  events.Pairwise fun e f => ∀ o ∈ e.occasion?, ∀ o' ∈ f.occasion?,
    o.uptime ≤ o'.uptime ∧ o'.uptime < o.uptime + UInt64.size

/-- Event `i` does not interrupt a wait: it is no reset, and if it is a run that is not skipped,
the reading it evaluates is above zero. -/
def KeepsHigh (c : SlotId) (events : List (Event δ)) (i : Nat) : Prop :=
  events[i]? ≠ some .reset ∧
    ∀ o, events[i]? = some (.run o) → ((ruleAt c events i).runOn c o).1 ≠ .skipped →
      ∃ x, o.readings.get? (ruleAt c events i).sensor = some x ∧ Binary.zero.lt x = true

/-- No event interrupts a wait, from event `m` up to, but not including, event `n`. -/
def HighThroughout (c : SlotId) (events : List (Event δ)) (m n : Nat) : Prop :=
  ∀ i, m ≤ i → i < n → KeepsHigh c events i

theorem ruleAt_succ {c : SlotId} {events : List (Event δ)} {n : Nat} {e : Event δ}
    (h : events[n]? = some e) : ruleAt c events (n + 1) = after c (ruleAt c events n) e := by
  rw [ruleAt, ruleAt, List.take_add_one, h, Option.toList_some, List.foldl_append,
    List.foldl_cons, List.foldl_nil]

theorem ruleAt_succ_of_none {c : SlotId} {events : List (Event δ)} {n : Nat}
    (h : events[n]? = none) : ruleAt c events (n + 1) = ruleAt c events n := by
  rw [ruleAt, ruleAt, List.take_add_one, h, Option.toList_none, List.append_nil]

theorem HighThroughout.succ {c : SlotId} {events : List (Event δ)} {m n : Nat}
    (h : HighThroughout c events m n) (hn : KeepsHigh c events n) :
    HighThroughout c events m (n + 1) := by
  intro i hm hi
  rcases Nat.lt_succ_iff_lt_or_eq.mp hi with hi | rfl
  · exact h i hm hi
  · exact hn

/-- What is neither a run nor a reset interrupts nothing. -/
theorem keepsHigh_of_quiet {c : SlotId} {events : List (Event δ)} {i : Nat}
    (hreset : events[i]? ≠ some .reset) (hrun : ∀ o, events[i]? ≠ some (.run o)) :
    KeepsHigh c events i :=
  ⟨hreset, fun o ho => absurd ho (hrun o)⟩

/-- A run that is skipped interrupts nothing, and neither does a reading above zero. -/
theorem keepsHigh_of_run {c : SlotId} {events : List (Event δ)} {i : Nat} {o : Occasion δ}
    (ho : events[i]? = some (.run o))
    (h : ((ruleAt c events i).runOn c o).1 ≠ .skipped →
      ∃ x, o.readings.get? (ruleAt c events i).sensor = some x ∧ Binary.zero.lt x = true) :
    KeepsHigh c events i := by
  refine ⟨by simp [ho], fun o' ho' => ?_⟩
  rw [ho] at ho'
  cases ho'
  exact h

/-! ## What events leave alone -/

theorem set_state (r : TopUp) (x : Setting) : (r.set x).state = r.state := by
  cases x <;> rfl

theorem set_since (r : TopUp) (x : Setting) : (r.set x).since = r.since := by
  cases x <;> rfl

/-- A record holds settings only. -/
theorem after_load {c : SlotId} (r : TopUp) (bytes : List UInt8) :
    (after c r (.load bytes : Event δ)).state = r.state ∧
      (after c r (.load bytes : Event δ)).since = r.since := by
  change (match load r bytes with | .ok (r', _) => r' | .error _ => r).state = r.state ∧
    (match load r bytes with | .ok (r', _) => r' | .error _ => r).since = r.since
  rw [load]
  cases Reader.decode readSettings bytes <;> exact ⟨rfl, rfl⟩

/-! ## Debouncing -/

/-- What `debounce` after `n` events means: the wait began with an earlier run, and nothing has
interrupted it since. -/
def DebouncingSince (c : SlotId) (events : List (Event δ)) (n : Nat) : Prop :=
  ∃ m < n, ∃ start, events[m]? = some (.run start) ∧
    ((ruleAt c events m).runOn c start).1 = .ran ∧
    (ruleAt c events n).since = UInt64.ofNat start.uptime ∧ HighThroughout c events m n

theorem DebouncingSince.succ {c : SlotId} {events : List (Event δ)} {n : Nat}
    (h : DebouncingSince c events n)
    (hsince : (ruleAt c events (n + 1)).since = (ruleAt c events n).since)
    (hn : KeepsHigh c events n) : DebouncingSince c events (n + 1) := by
  obtain ⟨m, hm, start, hstart, hran, hs, hhigh⟩ := h
  exact ⟨m, by omega, start, hstart, hran, hsince.trans hs, hhigh.succ hn⟩

/-- A run goes on with a wait or begins one. -/
theorem DebouncingSince.run {c : SlotId} {events : List (Event δ)} {n : Nat} {o : Occasion δ}
    (ih : (ruleAt c events n).state = .debounce → DebouncingSince c events n)
    (ho : events[n]? = some (.run o)) (h : (ruleAt c events (n + 1)).state = .debounce) :
    DebouncingSince c events (n + 1) := by
  have hsucc := ruleAt_succ (c := c) ho
  rcases run_cases (ruleAt c events n) (o.situation c) c o.plant with
    ⟨hstate, hrun, -⟩ | ⟨-, hrun, -⟩ | ⟨x, -, hx, hrun, -⟩
  · rw [hsucc, after, runOn, hrun, hstate] at h
    cases h
  · rw [hsucc, after, runOn, hrun] at h
    refine (ih h).succ (by rw [hsucc, after, runOn, hrun]) (keepsHigh_of_run ho fun hran => ?_)
    rw [runOn, hrun] at hran
    exact absurd rfl hran
  · rw [hsucc, after, runOn, hrun] at h
    obtain ⟨hhigh, hsince⟩ := of_next_debounce h
    have hn : KeepsHigh c events n := keepsHigh_of_run ho fun _ => ⟨x, hx, hhigh⟩
    rcases hsince with hsince | ⟨hstate, hsince⟩
    · refine ⟨n, by omega, o, ho, by rw [runOn, hrun], ?_, fun i hm hi => ?_⟩
      · rw [hsucc, after, runOn, hrun]
        exact hsince
      · obtain rfl : i = n := by omega
        exact hn
    · refine (ih hstate).succ ?_ hn
      rw [hsucc, after, runOn, hrun]
      exact hsince

/-- **The invariant of `debounce`.** -/
theorem debounce_since (c : SlotId) (events : List (Event δ)) (n : Nat)
    (h : (ruleAt c events n).state = .debounce) : DebouncingSince c events n := by
  induction n with
  | zero => cases h
  | succ n ih =>
    cases he : events[n]? with
    | none =>
      rw [ruleAt_succ_of_none he] at h
      exact (ih h).succ (by rw [ruleAt_succ_of_none he])
        (keepsHigh_of_quiet (by simp [he]) (by simp [he]))
    | some e =>
      have hsucc := ruleAt_succ (c := c) he
      cases e with
      | run o => exact DebouncingSince.run ih he h
      | reset =>
        rw [hsucc] at h
        cases h
      | set x =>
        rw [hsucc, after, set_state] at h
        exact (ih h).succ (by rw [hsucc, after, set_since])
          (keepsHigh_of_quiet (by simp [he]) (by simp [he]))
      | load bytes =>
        rw [hsucc, (after_load _ bytes).1] at h
        exact (ih h).succ (by rw [hsucc, (after_load _ bytes).2])
          (keepsHigh_of_quiet (by simp [he]) (by simp [he]))

/-! ## Waiting times -/

/-- Within one turn of the counter a waiting time is the plain difference of the uptimes. -/
theorem exceeds_ofNat {s t : Nat} {seconds : UInt16} (hle : s ≤ t) (hlt : t < s + UInt64.size) :
    exceeds (UInt64.ofNat s) (UInt64.ofNat t) seconds = true ↔ s + 1000 * seconds.toNat < t := by
  have hdiff : (UInt64.ofNat t - UInt64.ofNat s).toNat = t - s := by
    have hsize : UInt64.size = 18446744073709551616 := rfl
    rw [UInt64.toNat_sub, UInt64.toNat_ofNat', UInt64.toNat_ofNat']
    omega
  rw [exceeds, hdiff, decide_eq_true_eq]
  omega

omit [Actuator δ] in
theorem Clocked.uptimes {events : List (Event δ)} (h : Clocked events) {m n : Nat} (hmn : m < n)
    {o o' : Occasion δ} (hm : events[m]? = some (.run o)) (hn : events[n]? = some (.run o')) :
    o.uptime ≤ o'.uptime ∧ o'.uptime < o.uptime + UInt64.size := by
  obtain ⟨hm', hm⟩ := List.getElem?_eq_some_iff.mp hm
  obtain ⟨hn', hn⟩ := List.getElem?_eq_some_iff.mp hn
  have key := List.pairwise_iff_getElem.mp h m n hm' hn' hmn
  rw [hm, hn] at key
  exact key o rfl o' rfl

/-! ## Refills -/

/-- A run commands the group on just when it starts a refill. -/
theorem commands_on_iff (r : TopUp) (c : SlotId) (o : Occasion δ) :
    (∃ q ∈ (r.run (o.situation c)).requests c o.plant, q.level = true) ↔
      r.state = .debounce ∧ (r.runOn c o).2.state = .refill := by
  rw [runOn]
  rcases run_cases r (o.situation c) c o.plant with
    ⟨hstate, hrun, hreq⟩ | ⟨-, hrun, hreq⟩ | ⟨x, -, -, hrun, hreq⟩
  · rw [hrun, hreq]
    simp [hstate]
  · rw [hrun, hreq]
    refine ⟨fun ⟨q, hq, _⟩ => (List.not_mem_nil hq).elim, fun ⟨hdebounce, hrefill⟩ => ?_⟩
    rw [hdebounce] at hrefill
    cases hrefill
  · rw [hrun, ← order?_eq_on_iff, ← Option.mem_toList, ← hreq, List.mem_map]

/-- A run that starts a refill has a reading above zero, and the waiting time is over. -/
theorem refill_starts {r : TopUp} {c : SlotId} {o : Occasion δ} (hstate : r.state = .debounce)
    (h : (r.runOn c o).2.state = .refill) :
    (∃ x, o.readings.get? r.sensor = some x ∧ Binary.zero.lt x = true) ∧
      exceeds r.since (UInt64.ofNat o.uptime) r.delayHigh = true := by
  rw [runOn] at h
  rcases run_cases r (o.situation c) c o.plant with
    ⟨hlatched, -, -⟩ | ⟨-, hrun, -⟩ | ⟨x, -, hx, hrun, -⟩
  · rw [hstate] at hlatched
    cases hlatched
  · rw [hrun, hstate] at h
    cases h
  · rw [hrun] at h
    obtain ⟨hhigh, hexc⟩ := of_next_refill hstate h
    exact ⟨⟨x, hx, hhigh⟩, hexc⟩

/-- **A wave starts no refill.**  The group is commanded on just by the runs that take the rule
from `debounce` to `refill`; and before such a run there was an earlier one, longer ago than
`delayHigh` asks now, that evaluated its reading, and from that run to this one nobody reset the
rule and every run that was not skipped evaluated a reading above zero. -/
theorem refill_needs_lasting_high (c : SlotId) {events : List (Event δ)} (hclock : Clocked events)
    {n : Nat} {o : Occasion δ} (ho : events[n]? = some (.run o)) :
    ((∃ q ∈ ((ruleAt c events n).run (o.situation c)).requests c o.plant, q.level = true) ↔
      (ruleAt c events n).state = .debounce ∧ (ruleAt c events (n + 1)).state = .refill) ∧
    ((ruleAt c events n).state = .debounce → (ruleAt c events (n + 1)).state = .refill →
      ∃ m < n, ∃ start, events[m]? = some (.run start) ∧
        ((ruleAt c events m).runOn c start).1 = .ran ∧
        start.uptime + 1000 * (ruleAt c events n).delayHigh.toNat < o.uptime ∧
        HighThroughout c events m (n + 1)) := by
  rw [ruleAt_succ ho, after]
  refine ⟨commands_on_iff _ c o, fun hstate hrefill => ?_⟩
  obtain ⟨⟨x, hx, hhigh⟩, hexc⟩ := refill_starts hstate hrefill
  obtain ⟨m, hm, start, hstart, hran, hsince, hwait⟩ := debounce_since c events n hstate
  obtain ⟨hle, hlt⟩ := hclock.uptimes hm hstart ho
  rw [hsince, exceeds_ofNat hle hlt] at hexc
  exact ⟨m, hm, start, hstart, hran, hexc, hwait.succ (keepsHigh_of_run ho fun _ => ⟨x, hx, hhigh⟩)⟩

/-- An occasion with one pump, and a float switch in place 0 that reads the given bits, if it reads
anything. -/
def look (uptime : Nat) (bits : Option (BitVec 64)) : Occasion Relay where
  uptime := uptime
  readings := match bits with
    | some bits => Readings.empty.set (.ofNat 0) ⟨bits⟩
    | none => Readings.empty
  timeOfDay := none
  plant := ⟨(Rig.create (.ofNat 0) (.script Script.default) [(.ofNat 0, false)]).actuators, [], []⟩

/-- The water is low across a turn of the counter; in between the float switch falls silent, and
the waiting time is shortened to two seconds. -/
def lowWater : List (Event Relay) :=
  [.set (.sensor (.ofNat 0)),
    .run (look 18446744073709551000 (some 0x3FF0000000000000)),
    .run (look 18446744073709552000 none),
    .set (.delayHigh 2),
    .run (look 18446744073709553001 (some 0x3FF0000000000000))]

theorem low_water_is_refilled :
    Clocked lowWater ∧
    (∃ q ∈ ((ruleAt (.ofNat 0) lowWater 4).run
        ((look 18446744073709553001 (some 0x3FF0000000000000)).situation (.ofNat 0))).requests
        (.ofNat 0) (look 18446744073709553001 (some 0x3FF0000000000000)).plant, q.level = true) ∧
    ∃ m < 4, ∃ start, lowWater[m]? = some (.run start) ∧
      start.uptime + 1000 * 2 < 18446744073709553001 ∧
      HighThroughout (.ofNat 0) lowWater m 5 := by
  have hclock : Clocked lowWater := by
    simp [Clocked, lowWater, Event.occasion?, look, UInt64.size]
  have hstate : (ruleAt (.ofNat 0) lowWater 4).state = .debounce := by decide
  have hnext : (ruleAt (.ofNat 0) lowWater 5).state = .refill := by decide
  have hdelay : (ruleAt (.ofNat 0) lowWater 4).delayHigh = 2 := by decide
  obtain ⟨hon, hwait⟩ := refill_needs_lasting_high (.ofNat 0) hclock (n := 4) rfl
  obtain ⟨m, hm, start, hstart, -, hlong, hhigh⟩ := hwait hstate hnext
  rw [hdelay] at hlong
  exact ⟨hclock, hon.mpr ⟨hstate, hnext⟩, m, hm, start, hstart, hlong, hhigh⟩

end TopUp

end AquariumControl
