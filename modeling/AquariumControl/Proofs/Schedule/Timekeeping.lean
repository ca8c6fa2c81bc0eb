import AquariumControl.Proofs.Restart

/-!
# A schedule keeps time

A timer commands its output when what it wants changes, and again for as long as the command is
refused.  So an output may lag behind the clock while its driver fails, but not after a run in which
no command is refused.

* `Channel.applied_of_accepted` — a timer whose command is not refused has applied what it wants.
* `Schedule.applied_of_accepted` — so have all timers of a run that is refused nothing.
* `Schedule.outputs_follow_clock` — such a run leaves every output where its timer wants it, after
  any history of failures, changed timers, resets and restored records.
-/

set_option autoImplicit false

namespace AquariumControl

variable {δ : Type} [Actuator δ]

/-- A timer that is not refused its command has applied what it wants. -/
theorem Channel.applied_of_accepted {c : SlotId} {p : Plant δ} {ch : Channel} (hw : ch.Wired c p)
    (ha : ch.timer.actuator.isAssigned = true) {now : TimeOfDay}
    (hok : ∀ id on, .one id on false ∉ (run now ch).requests c p) :
    ((run now ch).perform c p).1.applied = true := by
  rw [requests_run] at hok
  rw [perform_run]
  cases hdue : ch.due now with
  | false =>
    rw [if_neg fun h => nomatch h.2]
    exact (due_eq_false_iff.mp hdue).2
  | true =>
    have howns := (hw ha).owns
    rw [hdue, if_pos ⟨howns, rfl⟩] at hok
    rw [if_pos ⟨howns, rfl⟩]
    cases haccepted : (p.switch c ch.timer.actuator (ch.timer.wantsOn now)).1 with
    | true => rfl
    | false =>
      refine absurd ?_ (hok ch.timer.actuator (ch.timer.wantsOn now))
      rw [haccepted]
      exact List.mem_cons_self

namespace Schedule

/-- After a run in which nothing is refused every timer has applied what it wants. -/
theorem applied_of_accepted {c : SlotId} (now : TimeOfDay) :
    ∀ (chs : List Channel) (p : Plant δ), (Channel.outputs chs).Nodup →
      (∀ ch ∈ chs, ch.Wired c p) →
      (∀ id on, .one id on false ∉ (chs.mapM (Channel.run now)).requests c p) →
      ∀ ch ∈ ((chs.mapM (Channel.run now)).perform c p).1,
        ch.timer.actuator.isAssigned = true → ch.applied = true
  | [], p, _, _, _ => fun ch hch => absurd hch List.not_mem_nil
  | ch :: rest, p, hnodup, hw, hok => by
    rw [List.mapM_cons] at hok ⊢
    simp only [Command.requests_bind, Command.requests_pure, List.append_nil, List.mem_append,
      not_or] at hok
    simp only [Command.perform_bind, Command.perform_pure]
    have hwch := hw ch List.mem_cons_self
    intro done hdone ha
    rcases List.mem_cons.mp hdone with rfl | hdone
    · rw [Channel.timer_run hwch, Timer.actuator_evaluated] at ha
      exact Channel.applied_of_accepted hwch ha fun id on => (hok id on).1
    · exact applied_of_accepted now rest _ (nodup_outputs_cons hnodup).1
        (wired_rest hnodup hw now) (fun id on => (hok id on).2) done hdone ha

/-- **Outputs follow the clock.**  At the end of any history of a schedule whose timers have
different outputs of their own, a run that knows the time evaluates every timer, and unless a
command is refused on the way each output is then on just when its timer wants it on.  A run that
does not know the time changes nothing. -/
theorem outputs_follow_clock {c : SlotId} {r : Schedule} {p : Plant δ}
    (hist : StandardRule.Operated c (.schedule r) p) (hw : StandardRule.Wired c (.schedule r) p)
    (s : Situation) :
    (s.timeOfDay = none → (r.run s).perform c p = ((.skipped, r), p)) ∧
    ∀ now, s.timeOfDay = some now →
      ((r.run s).perform c p).1.1 = .ran ∧
      ((r.run s).perform c p).1.2.channels.map Channel.timer =
        r.channels.map (fun ch => ch.timer.evaluated now) ∧
      ((∀ id on, .one id on false ∉ (r.run s).requests c p) →
        ∀ ch ∈ ((r.run s).perform c p).1.2.channels.toList, ch.timer.actuator.isAssigned = true →
          ch.timer.active = ch.timer.wantsOn now ∧
          ((r.run s).perform c p).2.isOn ch.timer.actuator = ch.timer.wantsOn now) := by
  refine ⟨fun hnone => ?_, fun now hnow => ?_⟩
  · rw [run, hnone]
    rfl
  obtain ⟨hran, hchannels, hplant⟩ := r.perform_run (c := c) hnow p
  obtain ⟨htimers, htracks, -⟩ :=
    perform_channels now r.channels.toList p hw.nodup hw.channel hist.tracks.2
  refine ⟨hran, ?_, fun hok ch hch ha => ?_⟩
  · rw [← Vector.toList_inj, Vector.toList_map, Vector.toList_map, hchannels, htimers]
  · rw [r.requests_run hnow] at hok
    rw [hchannels] at hch
    -- the timer is one of the old ones after its evaluation, and so says what it wants
    obtain ⟨old, -, hold⟩ := List.mem_map.mp (htimers ▸ List.mem_map_of_mem hch)
    have hactive : ch.timer.active = ch.timer.wantsOn now := by
      rw [← hold, Timer.actuator_evaluated] at ha
      rw [← hold, Timer.wantsOn_evaluated, Timer.active_evaluated ha]
    have happlied := applied_of_accepted now r.channels.toList p hw.nodup hw.channel hok ch hch ha
    refine ⟨hactive, ?_⟩
    rw [hplant, htracks ch hch ha happlied, hactive]

/-- A lamp that is to be on every day from ten to six. -/
def lamp : Schedule :=
  (default.changeTimer 0 fun t => t.configure ⟨some (.ofNat 0), none, [(0, 10, 0, 18, 0)]⟩).2

/-- A situation on Monday at a full hour. -/
def monday (hour : Nat) : Situation :=
  ⟨.ofNat 0, Readings.empty, 0, some ⟨hour, 0, 0⟩⟩

/-- The lamp after a run at noon in which its relay refused to go on. -/
def unlit : Schedule :=
  ((lamp.run (monday 12)).perform (.ofNat 0) (Thermostat.bench false .on)).1.2

theorem wired_lamp {r : Schedule} (houtputs : r.outputs = [.ofNat 0]) (on : Bool)
    (failure : FailureMode) :
    StandardRule.Wired (.ofNat 0) (.schedule r) (Thermostat.bench on failure) := by
  have hids : (StandardRule.schedule r).outputs = [.ofNat 0] := houtputs
  refine ⟨?_, fun id hid => ?_⟩
  · rw [hids]
    decide
  · rw [hids, List.mem_singleton] at hid
    subst hid
    exact ⟨_, rfl, rfl, Relay.faithful _⟩

/-- The timer is active all the same, and an hour later, when the relay works again, the lamp goes
on. -/
theorem lamp_is_lit_after_recovery :
    StandardRule.Operated (.ofNat 0) (.schedule unlit) (Thermostat.bench false .none) ∧
    (Thermostat.bench false .none).isOn (.ofNat 0) = false ∧
    unlit.channels[0].timer.active = true ∧
    ((unlit.run (monday 13)).perform (.ofNat 0) (Thermostat.bench false .none)).2.isOn (.ofNat 0) =
      true := by
  have hlamp : StandardRule.Operated (.ofNat 0) (.schedule lamp) (Thermostat.bench false .on) :=
    (StandardRule.Operated.schedule _).changeTimer _ _
  have hunlit := hlamp.run (monday 12) (wired_lamp (by decide) false .on)
  rw [StandardRule.perform_schedule] at hunlit
  have hist : StandardRule.Operated (.ofNat 0) (.schedule unlit) (Thermostat.bench false .none) :=
    hunlit.elsewhere (by decide +kernel)
  obtain ⟨-, hclock⟩ :=
    outputs_follow_clock hist (wired_lamp (by decide +kernel) false .none) (monday 13)
  obtain ⟨-, -, hon⟩ := hclock _ rfl
  have hreq : (unlit.run (monday 13)).requests (.ofNat 0) (Thermostat.bench false .none) =
      [.one (.ofNat 0) true true] := by decide +kernel
  have hlit := hon (by rw [hreq]; simp)
    ⟨{ lamp.channels[0].timer with active := true }, true⟩ (by decide +kernel) (by decide +kernel)
  exact ⟨hist, by decide +kernel, by decide +kernel, hlit.2.trans (by decide +kernel)⟩

end Schedule

end AquariumControl
