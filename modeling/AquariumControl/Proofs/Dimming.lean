import AquariumControl.Proofs.StoredDrivers

/-!
# What the channel of a dimmer shows

A command either writes the channel and is carried out, or leaves the dimmer as it was.  Loading
parameters writes nothing, so a dimmer that is on goes on showing the duty it had before.

* `Dimmer.Event` and `Dimmer.run` — what can be done to a dimmer, and what can befall its line.
* `Dimmer.Shows` — the channel stands at what the dimmer gives out for a certain duty.
* `Dimmer.commanded` — the duty that was configured when a command was last carried out;
  `Dimmer.Shows.run` says that this is the duty the channel shows.
* `Dimmer.channel_shows_last_command` — when the channel agrees with the level that is reported.
-/

set_option autoImplicit false

namespace AquariumControl

theorem Line.setDuty?_eq_some {l l' : Line} {duty : UInt16} (h : l.setDuty? duty = some l') :
    l'.duty = duty ∧ l'.maxDuty = l.maxDuty := by
  rw [setDuty?] at h
  split at h
  · cases h
  · rw [← Option.some.inj h]
    exact ⟨rfl, rfl⟩

namespace Dimmer

/-! ## Histories -/

/-- What can be done to a dimmer, and that its line can start or stop failing. -/
inductive Event
  | drive (on : Bool)
  | setPwm (duty : Binary32)
  | load (bytes : List UInt8)
  | fault (failing : Bool)

/-- The dimmer after an event.  Bytes that are refused change nothing. -/
def after (d : Dimmer) : Event → Dimmer
  | .drive on => (d.drive on).2
  | .setPwm duty => (d.setPwm duty).2
  | .load bytes =>
    match d.load bytes with
    | .ok (d', _) => d'
    | .error _ => d
  | .fault failing => { d with line.failing := failing }

/-- The dimmer after a history. -/
def run (d : Dimmer) (history : List Event) : Dimmer :=
  history.foldl after d

/-- Whether an event is a command that is carried out. -/
def obeys (d : Dimmer) : Event → Bool
  | .drive on => (d.drive on).1.isOk
  | .setPwm duty => (d.setPwm duty).1.isOk
  | .load _ => false
  | .fault _ => false

/-- The duty that the last command which was carried out left configured, `duty` if there was
none. -/
def commanded (d : Dimmer) (duty : Binary32) : List Event → Binary32
  | [] => duty
  | e :: rest => (d.after e).commanded (if d.obeys e then (d.after e).duty else duty) rest

/-- Loading replaces the configured duty or does nothing. -/
theorem load_cases (d : Dimmer) (bytes : List UInt8) :
    d.after (.load bytes) = d ∨
      ∃ duty used, d.load bytes = .ok ({ d with duty := duty }, used) ∧
        d.after (.load bytes) = { d with duty := duty } := by
  rw [after, load]
  cases Reader.decode (Wire.readBinary Format.single) bytes with
  | error e => exact .inl rfl
  | ok decoded =>
    obtain ⟨duty, used⟩ := decoded
    by_cases hduty : isDuty duty = true
    · simp only [if_pos hduty]
      exact .inr ⟨duty, used, rfl, rfl⟩
    · simp only [if_neg hduty]
      exact .inl trivial

/-- A refused command does nothing. -/
theorem after_drive_of_refused {d : Dimmer} {on : Bool} (h : d.obeys (.drive on) = false) :
    d.after (.drive on) = d := by
  simp only [obeys, after, drive] at h ⊢
  cases hdrive : d.driveDuty? (if on then d.duty else Binary.zero) with
  | none => rfl
  | some d' =>
    rw [hdrive] at h
    cases h

theorem after_setPwm_of_refused {d : Dimmer} {duty : Binary32}
    (h : d.obeys (.setPwm duty) = false) : d.after (.setPwm duty) = d := by
  simp only [obeys, after, setPwm] at h ⊢
  split at h
  · cases hdrive : d.driveDuty? (clamp duty) with
    | none => rw [if_pos ‹_›]
    | some d' =>
      rw [hdrive] at h
      cases h
  · cases h

theorem Made.after {d : Dimmer} (h : Made d) (e : Event) : Made (d.after e) := by
  cases e with
  | drive on => exact h.drive on
  | setPwm duty => exact h.setPwm duty
  | load bytes =>
    rcases d.load_cases bytes with hsame | ⟨_, _, hload, hloaded⟩
    · rwa [hsame]
    · rw [hloaded]
      exact h.load hload
  | fault failing => exact h.line _

theorem Made.run {d : Dimmer} (h : Made d) (history : List Event) : Made (d.run history) := by
  induction history generalizing d with
  | nil => exact h
  | cons e rest ih => exact ih (h.after e)

/-! ## The channel -/

/-- The channel stands at the raw value of `duty` if the dimmer is on, and at that of zero if it is
off. -/
def Shows (d : Dimmer) (duty : Binary32) : Prop :=
  d.line.duty = rawDuty (if d.on then duty else Binary.zero) d.line.maxDuty

theorem driveDuty?_eq_some {d d' : Dimmer} {duty : Binary32} (h : d.driveDuty? duty = some d') :
    d'.line.duty = rawDuty duty d'.line.maxDuty ∧ d'.duty = d.duty ∧ d'.on = d.on := by
  obtain ⟨line, hline, rfl⟩ := Option.map_eq_some_iff.mp h
  obtain ⟨hduty, hmax⟩ := Line.setDuty?_eq_some hline
  refine ⟨?_, rfl, rfl⟩
  rw [hduty, hmax]

/-- A command that is carried out leaves the channel at the configured duty. -/
theorem Shows.of_obeys {d : Dimmer} {shown : Binary32} (h : d.Shows shown) {e : Event}
    (hobeys : d.obeys e = true) : (d.after e).Shows (d.after e).duty := by
  cases e with
  | drive on =>
    simp only [obeys, Dimmer.after, drive] at hobeys ⊢
    cases hdrive : d.driveDuty? (if on then d.duty else Binary.zero) with
    | none =>
      rw [hdrive] at hobeys
      cases hobeys
    | some d' =>
      obtain ⟨hraw, hduty, -⟩ := driveDuty?_eq_some hdrive
      rw [← hduty] at hraw
      exact hraw
  | setPwm duty =>
    simp only [obeys, Dimmer.after, setPwm] at hobeys ⊢
    by_cases hon : d.on = true
    · rw [if_pos hon] at hobeys ⊢
      cases hdrive : d.driveDuty? (clamp duty) with
      | none =>
        rw [hdrive] at hobeys
        cases hobeys
      | some d' =>
        obtain ⟨hraw, -, hsame⟩ := driveDuty?_eq_some hdrive
        simpa only [Shows, hsame, if_pos hon] using hraw
    · -- nothing is written, but a dimmer that is off shows zero for every duty
      rw [if_neg hon]
      simpa only [Shows, if_neg hon] using h
  | load bytes => cases hobeys
  | fault failing => cases hobeys

/-- Nothing else touches the channel. -/
theorem Shows.of_not_obeys {d : Dimmer} {shown : Binary32} (h : d.Shows shown) {e : Event}
    (hobeys : d.obeys e = false) : (d.after e).Shows shown := by
  cases e with
  | drive on => rwa [after_drive_of_refused hobeys]
  | setPwm duty => rwa [after_setPwm_of_refused hobeys]
  | load bytes =>
    rcases d.load_cases bytes with hsame | ⟨duty, -, -, hloaded⟩
    · rwa [hsame]
    · rw [hloaded]
      exact h
  | fault failing => exact h

/-- **The channel shows the duty that the last command left**, whatever is loaded afterwards. -/
theorem Shows.run {d : Dimmer} {shown : Binary32} (h : d.Shows shown) (history : List Event) :
    (d.run history).Shows (d.commanded shown history) := by
  induction history generalizing d shown with
  | nil => exact h
  | cons e rest ih =>
    rw [commanded]
    cases hobeys : d.obeys e with
    | true => exact ih (h.of_obeys hobeys)
    | false => exact ih (h.of_not_obeys hobeys)

/-- Only loading changes the duty without a command. -/
theorem after_of_not_obeys {d : Dimmer} {e : Event} (hobeys : d.obeys e = false) :
    (d.after e).on = d.on ∧ ((∃ bytes, e = .load bytes) ∨ (d.after e).duty = d.duty) := by
  cases e with
  | drive on =>
    rw [after_drive_of_refused hobeys]
    exact ⟨rfl, .inr rfl⟩
  | setPwm duty =>
    rw [after_setPwm_of_refused hobeys]
    exact ⟨rfl, .inr rfl⟩
  | load bytes =>
    refine ⟨?_, .inl ⟨bytes, rfl⟩⟩
    rcases d.load_cases bytes with hsame | ⟨duty, -, -, hloaded⟩
    · rw [hsame]
    · rw [hloaded]
  | fault failing => exact ⟨rfl, .inr rfl⟩

/-- The duty that the last command left is still the configured one if nothing else was loaded while
the dimmer was on. -/
theorem commanded_eq {d : Dimmer} {duty : Binary32} (hduty : d.on = true → duty = d.duty)
    (history : List Event)
    (hload : ∀ front bytes back, history = front ++ .load bytes :: back →
      (d.run front).on = true → (d.run front).after (.load bytes) = d.run front)
    (hon : (d.run history).on = true) : d.commanded duty history = (d.run history).duty := by
  induction history generalizing d duty with
  | nil => exact hduty hon
  | cons e rest ih =>
    refine ih (fun hafter => ?_) (fun front bytes back hrest => ?_) hon
    · cases hobeys : d.obeys e with
      | true => rfl
      | false =>
        obtain ⟨hsame, hcases⟩ := after_of_not_obeys hobeys
        have hbefore : d.on = true := hsame ▸ hafter
        rw [if_neg Bool.false_ne_true, hduty hbefore]
        rcases hcases with ⟨bytes, rfl⟩ | hkept
        · exact congrArg Dimmer.duty (hload [] bytes rest rfl hbefore).symm
        · exact hkept.symm
    · exact hload (e :: front) bytes back (by rw [hrest, List.cons_append])

/-- A new dimmer is off, and its channel stands at zero. -/
theorem shows_create {line : Line} {d : Dimmer} (h : create line = .ok d) :
    d.on = false ∧ ∀ shown, d.Shows shown := by
  rw [create, drive] at h
  cases hdrive : driveDuty? ⟨line, Binary32.one, true⟩ Binary.zero with
  | none => simp [hdrive] at h
  | some d' =>
    simp only [Bool.false_eq_true, if_false, hdrive] at h
    rw [← Except.ok.inj h]
    exact ⟨rfl, fun _ => (driveDuty?_eq_some hdrive).1⟩

/-- **The channel shows the last command.**  Whatever is done to a dimmer and whenever its line
fails, the configured duty is a number from 0 to 1.  The channel agrees with the level that is
reported if the dimmer is off; if it is on, exactly if the configured duty comes to the same raw
value as the one that the last command left.  So it does as long as nothing new is loaded while the
dimmer is on. -/
theorem channel_shows_last_command {line : Line} {d : Dimmer} (hcreate : create line = .ok d)
    (history : List Event) :
    let last := d.run history
    let inStep := last.line.duty = rawDuty (Actuator.pwm last) last.line.maxDuty
    isDuty last.duty = true ∧
      (inStep ↔ (last.on = true → rawDuty last.duty last.line.maxDuty =
        rawDuty (d.commanded d.duty history) last.line.maxDuty)) ∧
      ((∀ front bytes back, history = front ++ .load bytes :: back →
        (d.run front).on = true → (d.run front).after (.load bytes) = d.run front) → inStep) := by
  intro last inStep
  obtain ⟨hoff, hshows⟩ := shows_create hcreate
  have hshown : last.Shows (d.commanded d.duty history) := (hshows d.duty).run history
  have hiff : inStep ↔ (last.on = true → rawDuty last.duty last.line.maxDuty =
      rawDuty (d.commanded d.duty history) last.line.maxDuty) := by
    change last.Shows last.duty ↔ _
    rw [Shows] at hshown ⊢
    rw [hshown]
    cases hon : last.on with
    | false => simp
    | true => simp [eq_comm]
  refine ⟨((Made.create hcreate).run history).isDuty, hiff, fun hload => hiff.mpr fun hon => ?_⟩
  rw [commanded_eq (fun _ => rfl) history hload hon]

/-- A light on a channel of a thousand steps. -/
def light : Dimmer :=
  ⟨⟨false, 0, 1000, false, 1⟩, Binary32.one, false⟩

theorem create_light : create ⟨false, 0, 1000, false, 0⟩ = .ok light :=
  create_eq (by decide +kernel)

/-- The stored form of a quarter. -/
def quarter : List UInt8 :=
  [0x00, 0x00, 0x80, 0x3E]

/-- A quarter is loaded while the light is off, and the light is switched on.  Then the line fails,
and what is set does not arrive. -/
def evening : List Event :=
  [.load quarter, .drive true, .fault true, .setPwm Binary32.one]

/-- The light shows the quarter that it reports. -/
theorem dimmed_light_comes_on_dimmed :
    create ⟨false, 0, 1000, false, 0⟩ = .ok light ∧
      (light.run evening).line.duty =
        rawDuty (Actuator.pwm (light.run evening)) (light.run evening).line.maxDuty ∧
      (light.run evening).on = true ∧ (light.run evening).line.duty = 250 := by
  refine ⟨create_light, ?_, by decide +kernel, by decide +kernel⟩
  refine (channel_shows_last_command create_light evening).2.2 fun front bytes back hsplit hon => ?_
  -- the one thing that is loaded comes first
  rcases front with _ | ⟨_, _ | ⟨_, _ | ⟨_, _ | ⟨_, front⟩⟩⟩⟩
  · cases hon
  all_goals simp [evening] at hsplit

/-- A light that is on stays at full brightness when a quarter is loaded, but reports the
quarter. -/
theorem lit_light_ignores_loaded_duty :
    create ⟨false, 0, 1000, false, 0⟩ = .ok light ∧
      let last := light.run [.drive true, .load quarter]
      last.line.duty = 1000 ∧ rawDuty (Actuator.pwm last) last.line.maxDuty = 250 :=
  ⟨create_light, by decide +kernel⟩

end Dimmer

end AquariumControl
