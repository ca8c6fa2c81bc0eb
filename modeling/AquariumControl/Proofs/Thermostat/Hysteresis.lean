import Mathlib.Data.List.Induction
import AquariumControl.Proofs.Thermostat.Rewiring

/-!
# Hysteresis

What a thermostat is in is the end of a chain of readings, each of which may have changed it.  When
its thresholds are in order there is a simple law behind the chain: it heats from a reading below
the band until one at which heating ends, and cools likewise.

* `Thermostat.Ordered` — the two thresholds and the two ends are in order.
* `Thermostat.next_eq_heating_iff`, `next_eq_cooling_iff` — one reading, from any state.
* `Since` — something has started, and everything after that has kept it going.
* `Thermostat.follow_eq_heating_iff`, `follow_eq_cooling_iff` — any readings, from idle.
* `Thermostat.throughout` — the thermostat after runs, and `Thermostat.seen` — the readings that
  they came upon.
* `Thermostat.heats_since` — runs in which both outputs are there.
-/

set_option autoImplicit false

namespace AquariumControl

/-! ## Started and kept going -/

section Since

variable {α : Type} {starts keeps : α → Prop}

/-- One of these started it, and all that came later keep it going. -/
def Since (starts keeps : α → Prop) (ts : List α) : Prop :=
  ∃ front t back, ts = front ++ t :: back ∧ starts t ∧ ∀ u ∈ back, keeps u

theorem not_since_nil : ¬Since starts keeps [] := by
  rintro ⟨front, t, back, h, -⟩
  cases front <;> cases h

/-- The last one starts it anew or keeps it going. -/
theorem since_concat {ts : List α} {t : α} :
    Since starts keeps (ts ++ [t]) ↔ starts t ∨ (Since starts keeps ts ∧ keeps t) := by
  constructor
  · rintro ⟨front, s, back, h, hs, hback⟩
    induction back using List.reverseRecOn with
    | nil =>
      obtain ⟨-, rfl⟩ := List.append_inj' h rfl |>.imp_right List.singleton_inj.mp
      exact .inl hs
    | append_singleton back u _ =>
      rw [← List.cons_append, ← List.append_assoc] at h
      obtain ⟨rfl, hlast⟩ := List.append_inj' h rfl
      obtain rfl := List.singleton_inj.mp hlast
      rw [List.forall_mem_append, List.forall_mem_singleton] at hback
      exact .inr ⟨⟨front, s, back, rfl, hs, hback.1⟩, hback.2⟩
  · rintro (ht | ⟨⟨front, s, back, rfl, hs, hback⟩, ht⟩)
    · exact ⟨ts, t, [], rfl, ht, fun _ hu => absurd hu List.not_mem_nil⟩
    · refine ⟨front, s, back ++ [t], by rw [List.append_assoc, List.cons_append], hs, ?_⟩
      rw [List.forall_mem_append, List.forall_mem_singleton]
      exact ⟨hback, ht⟩

/-- What a last one can only start or keep going is what has been so since. -/
theorem iff_since {P : List α → Prop} {sound : α → Prop} (hnil : ¬P [])
    (hconcat : ∀ ts t, sound t → (P (ts ++ [t]) ↔ starts t ∨ (P ts ∧ keeps t)))
    {ts : List α} (hts : ∀ t ∈ ts, sound t) : P ts ↔ Since starts keeps ts := by
  induction ts using List.reverseRecOn with
  | nil => exact iff_of_false hnil not_since_nil
  | append_singleton ts t ih =>
    rw [List.forall_mem_append, List.forall_mem_singleton] at hts
    rw [hconcat ts t hts.2, ih hts.1, since_concat]

end Since

namespace Thermostat

variable {r : Thermostat}

/-! ## One reading -/

/-- The reading at which heating ends. -/
def heatOff (r : Thermostat) : Binary64 :=
  r.low.add r.heatHysteresis

/-- The reading at which cooling ends. -/
def coolOff (r : Thermostat) : Binary64 :=
  r.high.sub r.coolHysteresis

/-- The state after a reading when both outputs are there. -/
theorem next_both (r : Thermostat) (t : Binary64) :
    r.next t true true = match r.state with
      | .idle => if t.lt r.low then .heating else if r.high.lt t then .cooling else .idle
      | .heating =>
        if r.high.lt t then .cooling else if r.heatOff.le t then .idle else .heating
      | .cooling => if t.lt r.low then .heating else if t.le r.coolOff then .idle else .cooling := by
  rw [next]
  cases r.state <;> rfl

/-- The thresholds are in order, and heating and cooling do not end before they begin.  So all of
these are numbers. -/
structure Ordered (r : Thermostat) : Prop where
  band : r.low.le r.high = true
  heatOff : r.low.le r.heatOff = true
  coolOff : r.coolOff.le r.high = true

/-- It heats after a reading that starts it, or if it heated before and nothing ends it. -/
theorem next_eq_heating_iff (h : r.Ordered) {t : Binary64} (ht : t.isNaN = false) :
    r.next t true true = .heating ↔
      t.lt r.low = true ∨ (r.state = .heating ∧ t.lt r.heatOff = true ∧ t.le r.high = true) := by
  obtain ⟨hlow, hhigh⟩ := Binary.not_isNaN_of_le h.band
  obtain ⟨-, hoff⟩ := Binary.not_isNaN_of_le h.heatOff
  have hband := (Binary.le_iff_key hlow hhigh).mp h.band
  have hends := (Binary.le_iff_key hlow hoff).mp h.heatOff
  rw [next_both]
  simp only [Binary.lt_iff_key ht hlow, Binary.lt_iff_key hhigh ht, Binary.lt_iff_key ht hoff,
    Binary.le_iff_key hoff ht, Binary.le_iff_key ht hhigh]
  cases r.state <;> grind

/-- It cools after a reading that starts it, or if it cooled before and nothing ends it. -/
theorem next_eq_cooling_iff (h : r.Ordered) {t : Binary64} (ht : t.isNaN = false) :
    r.next t true true = .cooling ↔
      r.high.lt t = true ∨ (r.state = .cooling ∧ r.coolOff.lt t = true ∧ r.low.le t = true) := by
  obtain ⟨hlow, hhigh⟩ := Binary.not_isNaN_of_le h.band
  obtain ⟨hoff, -⟩ := Binary.not_isNaN_of_le h.coolOff
  have hband := (Binary.le_iff_key hlow hhigh).mp h.band
  have hends := (Binary.le_iff_key hoff hhigh).mp h.coolOff
  rw [next_both]
  simp only [Binary.lt_iff_key ht hlow, Binary.lt_iff_key hhigh ht, Binary.lt_iff_key hoff ht,
    Binary.le_iff_key ht hoff, Binary.le_iff_key hlow ht]
  cases r.state <;> grind

/-! ## Any readings -/

/-- The state after these readings, with both outputs there all the time. -/
def follow (r : Thermostat) (ts : List Binary64) : ThermalState :=
  ts.foldl (fun state t => { r with state := state }.next t true true) r.state

/-- Later readings take it on from where it was, whatever it believes of its outputs. -/
theorem follow_append (r : Thermostat) (ts later : List Binary64) (synced : Bool) :
    r.follow (ts ++ later) = { r with state := r.follow ts, synced := synced }.follow later :=
  List.foldl_append

section Law

variable {ts : List Binary64}

/-- **The law of heating**, on readings. -/
theorem follow_eq_heating_iff (h : r.Ordered) (hidle : r.state = .idle)
    (hts : ∀ t ∈ ts, t.isNaN = false) :
    r.follow ts = .heating ↔ Since (fun t => t.lt r.low = true)
      (fun t => t.lt r.heatOff = true ∧ t.le r.high = true) ts := by
  refine iff_since (P := fun ts => r.follow ts = .heating) ?_ (fun ts t ht => ?_) hts
  · rw [follow, List.foldl_nil, hidle]
    decide
  · rw [follow_append r ts [t] r.synced]
    exact next_eq_heating_iff (r := { r with state := r.follow ts }) ⟨h.1, h.2, h.3⟩ ht

/-- **The law of cooling**, on readings. -/
theorem follow_eq_cooling_iff (h : r.Ordered) (hidle : r.state = .idle)
    (hts : ∀ t ∈ ts, t.isNaN = false) :
    r.follow ts = .cooling ↔ Since (fun t => r.high.lt t = true)
      (fun t => r.coolOff.lt t = true ∧ r.low.le t = true) ts := by
  refine iff_since (P := fun ts => r.follow ts = .cooling) ?_ (fun ts t ht => ?_) hts
  · rw [follow, List.foldl_nil, hidle]
    decide
  · rw [follow_append r ts [t] r.synced]
    exact next_eq_cooling_iff (r := { r with state := r.follow ts }) ⟨h.1, h.2, h.3⟩ ht

end Law

/-! ## Runs -/

variable {δ : Type} {c : SlotId}

/-- The moment of a run: what the thermostat is shown, and the outputs that are there. -/
structure Visit (δ : Type) where
  situation : Situation
  plant : Plant δ

/-- Both outputs are there. -/
def Visit.Complete (v : Visit δ) (c : SlotId) (r : Thermostat) : Prop :=
  v.plant.owns c r.heater = true ∧ v.plant.owns c r.cooler = true

/-- The readings that runs come upon. -/
def seen (sensor : SlotId) (visits : List (Visit δ)) : List Binary64 :=
  visits.filterMap fun v => v.situation.readings.get? sensor

theorem seen_cons (sensor : SlotId) (v : Visit δ) (rest : List (Visit δ)) :
    seen sensor (v :: rest) = seen sensor [v] ++ seen sensor rest :=
  List.filterMap_append (l := [v])

variable [Actuator δ]

/-- The thermostat after runs.  Between them anything may happen to the outputs. -/
def throughout (c : SlotId) (r : Thermostat) (visits : List (Visit δ)) : Thermostat :=
  visits.foldl (fun r v => ((r.run v.situation).perform c v.plant).1.2) r

theorem throughout_cons (c : SlotId) (r : Thermostat) (v : Visit δ) (rest : List (Visit δ)) :
    throughout c r (v :: rest) =
      throughout c ((r.run v.situation).perform c v.plant).1.2 rest := rfl

/-- A run is evaluated just when there is a reading. -/
theorem ran_iff (c : SlotId) (r : Thermostat) (p : Plant δ) (s : Situation) :
    ((r.run s).perform c p).1.1 = .ran ↔ (s.readings.get? r.sensor).isSome = true := by
  rcases run_courses c r p s with ⟨ht, h⟩ | ⟨t, state, ht, -, ⟨-, -, h⟩ | ⟨-, h⟩⟩ <;>
    simp [h, ht]

/-- **One run** takes the state to what follows on the reading, if there is one. -/
theorem run_complete {v : Visit δ} (h : v.Complete c r) :
    ∃ synced, ((r.run v.situation).perform c v.plant).1.2 =
      { r with state := r.follow (seen r.sensor [v]), synced := synced } := by
  obtain ⟨hheater, hcooler⟩ := h
  have hcourses := run_courses c r v.plant v.situation
  rw [hheater, hcooler] at hcourses
  rcases hcourses with ⟨ht, h⟩ | ⟨t, state, ht, rfl, ⟨hsame, -, h⟩ | ⟨-, h⟩⟩ <;>
    simp only [h, seen, List.filterMap_cons, ht, List.filterMap_nil]
  · exact ⟨r.synced, rfl⟩
  · refine ⟨r.synced, ?_⟩
    rw [show r.follow [t] = r.state from hsame]
  · exact ⟨_, rfl⟩

/-- **Any runs** take the state to what follows on their readings, and leave the settings. -/
theorem throughout_eq {visits : List (Visit δ)} (h : ∀ v ∈ visits, v.Complete c r) :
    ∃ synced, throughout c r visits =
      { r with state := r.follow (seen r.sensor visits), synced := synced } := by
  induction visits generalizing r with
  | nil => exact ⟨r.synced, rfl⟩
  | cons v rest ih =>
    rw [List.forall_mem_cons] at h
    obtain ⟨synced, hrun⟩ := run_complete h.1
    obtain ⟨synced', hrest⟩ := ih (r := ((r.run v.situation).perform c v.plant).1.2)
      (by rw [hrun]; exact h.2)
    refine ⟨synced', hrest.trans ?_⟩
    rw [hrun, seen_cons r.sensor v rest, follow_append r _ _ synced]

/-- **Hysteresis.**  Let the thresholds of a thermostat be in order, and let it start idle.  After
any runs with both outputs there, each of which is evaluated just when it comes upon a reading, it
is heating just when one of the readings was below the lower threshold and all that came later were
below the end of heating and not above the upper threshold.  It is cooling just when one of them was
above the upper threshold and all that came later were above the end of cooling and not below the
lower threshold.  Otherwise it is idle. -/
theorem heats_since {visits : List (Visit δ)} (hidle : r.state = .idle) (h : r.Ordered)
    (hcomplete : ∀ v ∈ visits, v.Complete c r)
    (hnumbers : ∀ t ∈ seen r.sensor visits, t.isNaN = false) :
    let heats := Since (fun t => t.lt r.low = true)
      (fun t => t.lt r.heatOff = true ∧ t.le r.high = true) (seen r.sensor visits)
    let cools := Since (fun t => r.high.lt t = true)
      (fun t => r.coolOff.lt t = true ∧ r.low.le t = true) (seen r.sensor visits)
    let after := throughout c r visits
    (∀ v : Visit δ, ((after.run v.situation).perform c v.plant).1.1 = .ran ↔
      (v.situation.readings.get? r.sensor).isSome = true) ∧
    (after.state = .heating ↔ heats) ∧ (after.state = .cooling ↔ cools) ∧
    (after.state = .idle ↔ ¬heats ∧ ¬cools) := by
  intro heats cools after
  obtain ⟨hsensor, hstate⟩ :
      after.sensor = r.sensor ∧ after.state = r.follow (seen r.sensor visits) := by
    obtain ⟨synced, hafter⟩ := throughout_eq hcomplete
    rw [show after = _ from hafter]
    exact ⟨rfl, rfl⟩
  have hheats : after.state = .heating ↔ heats := by
    rw [hstate, follow_eq_heating_iff h hidle hnumbers]
  have hcools : after.state = .cooling ↔ cools := by
    rw [hstate, follow_eq_cooling_iff h hidle hnumbers]
  refine ⟨fun v => ?_, hheats, hcools, ?_⟩
  · rw [ran_iff, hsensor]
  · rw [← hheats, ← hcools]
    cases after.state <;> decide

/-- A cold reading, a run without one, and 24.3 °C: it is below the end of heating. -/
def warmingUp : List (Visit Relay) :=
  [⟨cold, bench false .none⟩, ⟨⟨.ofNat 0, Readings.empty, 0, none⟩, bench true .none⟩,
    ⟨reading 0x40384CCCCCCCCCCD, bench true .none⟩]

/-- The water is in the band again, and the heater stays on. -/
theorem heats_on_within_the_band :
    fitted.state = .idle ∧ fitted.Ordered ∧
    (∀ v ∈ warmingUp, v.Complete (.ofNat 0) fitted) ∧
    (∀ t ∈ seen fitted.sensor warmingUp, t.isNaN = false) ∧
    (throughout (.ofNat 0) fitted warmingUp).state = .heating := by
  have hordered : fitted.Ordered := ⟨by decide, by decide, by decide⟩
  have hcomplete : ∀ v ∈ warmingUp, v.Complete (.ofNat 0) fitted := by
    simp only [warmingUp, List.forall_mem_cons]
    exact ⟨⟨by decide, by decide⟩, ⟨by decide, by decide⟩, ⟨by decide, by decide⟩,
      List.forall_mem_nil _⟩
  have hnumbers : ∀ t ∈ seen fitted.sensor warmingUp, t.isNaN = false := by decide
  obtain ⟨-, hheats, -⟩ := heats_since rfl hordered hcomplete hnumbers
  exact ⟨rfl, hordered, hcomplete, hnumbers,
    hheats.mpr ⟨[], _, _, rfl, by decide, by decide⟩⟩

end Thermostat

end AquariumControl
