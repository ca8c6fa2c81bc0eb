import AquariumControl.Proofs.Restart
import AquariumControl.Proofs.Thermostat.Hysteresis

/-!
# A steady temperature

Nothing keeps the settings of a thermostat in order: the band may be crossed, and heating or cooling
may end before it begins.  Then there are readings at which every state is left at once.  At any
other reading one evaluation is enough for a thermostat to come to rest.

* `Thermostat.Torn` — the readings at which no state is kept: `next_next` and `next_ne`.
* `Thermostat.Ordered.not_torn` — there are none if the thresholds are in order.
* `Thermostat.AtRest` — the state stays and the outputs are driven to it, so a run does nothing.
* `Thermostat.rests_unless_torn` — runs at a steady reading.
-/

set_option autoImplicit false

namespace AquariumControl

namespace Thermostat

variable {r : Thermostat} {t : Binary64}

/-! ## Readings without a state -/

/-- No state suits the reading: it is below the lower threshold, but heating is to go over to
cooling or to end there; or it is above the upper one, but cooling is to end there. -/
def Torn (r : Thermostat) (t : Binary64) : Prop :=
  (t.lt r.low = true ∧ (r.high.lt t = true ∨ r.heatOff.le t = true)) ∨
    (r.high.lt t = true ∧ t.le r.coolOff = true)

instance (r : Thermostat) (t : Binary64) : Decidable (r.Torn t) :=
  inferInstanceAs (Decidable (_ ∨ _))

/-- The same reading once more changes nothing. -/
theorem next_next (h : ¬r.Torn t) :
    { r with state := r.next t true true }.next t true true = r.next t true true := by
  simp only [Torn, not_or, not_and] at h
  rw [next_both, next_both]
  cases r.state <;> grind [heatOff, coolOff]

/-- Every state is left at once. -/
theorem next_ne (h : r.Torn t) : r.next t true true ≠ r.state := by
  rw [next_both]
  simp only [Torn] at h
  cases r.state <;> grind

/-- Thresholds in order leave no room for such a reading. -/
theorem Ordered.not_torn (h : r.Ordered) (t : Binary64) : ¬r.Torn t := by
  obtain ⟨hband, hheat, hcool⟩ := h
  simp only [Binary.le, Bool.and_eq_true, decide_eq_true_eq] at hband hheat hcool
  simp only [Torn, Binary.lt, Binary.le, Bool.and_eq_true, decide_eq_true_eq]
  omega

/-! ## Runs -/

variable {δ : Type} [Actuator δ] {c : SlotId} {v : Visit δ}

/-- Both outputs are there, and their drivers work. -/
def Visit.Dependable (v : Visit δ) (c : SlotId) (r : Thermostat) : Prop :=
  v.plant.Dependable c r.heater ∧ v.plant.Dependable c r.cooler

theorem Visit.Dependable.complete (h : v.Dependable c r) : v.Complete c r :=
  ⟨h.1.reliable.owns, h.2.reliable.owns⟩

/-- The state stays at this reading, and the outputs have been driven to it. -/
def AtRest (r : Thermostat) (t : Binary64) : Prop :=
  r.next t true true = r.state ∧ r.synced = true

/-- **At rest, a run does nothing**: it switches no output, and the thermostat stays as it is. -/
theorem AtRest.run (h : r.AtRest t) (hv : v.Complete c r)
    (hseen : ∀ u ∈ seen r.sensor [v], u = t) :
    ((r.run v.situation).perform c v.plant).1.2 = r ∧
      ((r.run v.situation).perform c v.plant).2 = v.plant := by
  have hcourses := run_courses c r v.plant v.situation
  rw [hv.1, hv.2] at hcourses
  rcases hcourses with ⟨-, hrun⟩ | ⟨u, state, hu, rfl, ⟨-, -, hrun⟩ | ⟨hdue, -⟩⟩
  · rw [hrun]
    exact ⟨rfl, rfl⟩
  · rw [hrun]
    exact ⟨rfl, rfl⟩
  · obtain rfl : u = t := hseen u (by simp [seen, hu])
    rw [h.1, h.2] at hdue
    simp at hdue

/-- **One evaluation brings it to rest**, unless the reading is torn. -/
theorem atRest_run (ht : ¬r.Torn t) (hv : v.Dependable c r)
    (hread : v.situation.readings.get? r.sensor = some t) :
    ((r.run v.situation).perform c v.plant).1.2.AtRest t := by
  have hcourses := run_courses c r v.plant v.situation
  rw [hv.complete.1, hv.complete.2, hread] at hcourses
  rcases hcourses with ⟨hnone, -⟩ | ⟨u, state, hu, rfl, ⟨hsame, hsynced, hrun⟩ | ⟨-, hrun⟩⟩
  · cases hnone
  · cases hu
    rw [hrun]
    exact ⟨hsame, hsynced⟩
  · cases hu
    rw [hrun, perform_apply]
    exact ⟨next_next ht, commands_accepted hv.1 hv.2⟩

variable {visits : List (Visit δ)}

/-- At rest, **no runs do anything**. -/
theorem AtRest.throughout (h : r.AtRest t) (hv : ∀ v ∈ visits, v.Complete c r)
    (hseen : ∀ u ∈ seen r.sensor visits, u = t) :
    throughout c r visits = r ∧
      ∀ v ∈ visits, ((r.run v.situation).perform c v.plant).2 = v.plant := by
  induction visits with
  | nil => exact ⟨rfl, List.forall_mem_nil _⟩
  | cons v rest ih =>
    rw [List.forall_mem_cons] at hv ⊢
    rw [seen_cons, List.forall_mem_append] at hseen
    obtain ⟨hsame, hplant⟩ := h.run hv.1 hseen.1
    obtain ⟨hrest, hplants⟩ := ih hv.2 hseen.2
    refine ⟨?_, hplant, hplants⟩
    rw [throughout_cons, hsame]
    exact hrest

/-- **Runs bring it to rest**, if at least one of them is evaluated. -/
theorem atRest_throughout (ht : ¬r.Torn t) (hv : ∀ v ∈ visits, v.Dependable c r)
    (hseen : ∀ u ∈ seen r.sensor visits, u = t) (hran : seen r.sensor visits ≠ []) :
    (throughout c r visits).AtRest t := by
  induction visits with
  | nil => exact absurd rfl hran
  | cons v rest ih =>
    rw [List.forall_mem_cons] at hv
    rw [seen_cons] at hseen hran
    rw [throughout_cons]
    cases hread : v.situation.readings.get? r.sensor with
    | none =>
      have hnone : seen r.sensor [v] = [] := by simp [seen, hread]
      rw [hnone, List.nil_append] at hseen hran
      rw [show (r.run v.situation).perform c v.plant = ((.skipped, r), v.plant) by
        rw [run, hread]; rfl]
      exact ih hv.2 hseen hran
    | some u =>
      rw [List.forall_mem_append] at hseen
      obtain rfl : u = t := hseen.1 u (by simp [seen, hread])
      have hrest := atRest_run ht hv.1 hread
      obtain ⟨synced, hrun⟩ := run_complete hv.1.complete
      -- it rests from here on, with the settings that it had
      have hcomplete : ∀ w ∈ rest,
          w.Complete c ((r.run v.situation).perform c v.plant).1.2 := by
        rw [hrun]
        exact fun w hmem => (hv.2 w hmem).complete
      rw [(hrest.throughout hcomplete (by rw [hrun]; exact hseen.2)).1]
      exact hrest

/-- **A steady temperature.**  Let both outputs of a thermostat work, and let its runs have met one
reading only.  Unless the reading is torn, one of them that was evaluated is enough: later runs at
this reading change nothing about the thermostat and switch no output.  If it is torn, the next
evaluation changes the state, be it the first or a later one.  If the thresholds are in order, no
reading is torn. -/
theorem rests_unless_torn (hv : ∀ v ∈ visits, v.Dependable c r)
    (hseen : ∀ u ∈ seen r.sensor visits, u = t) :
    (¬r.Torn t → seen r.sensor visits ≠ [] →
      ∀ later : List (Visit δ), (∀ v ∈ later, v.Complete c r) →
        (∀ u ∈ seen r.sensor later, u = t) →
          throughout c r (visits ++ later) = throughout c r visits ∧
          ∀ v ∈ later,
            (((throughout c r visits).run v.situation).perform c v.plant).2 = v.plant) ∧
    (r.Torn t → ∀ v : Visit δ, v.Complete c r → v.situation.readings.get? r.sensor = some t →
      (throughout c r (visits ++ [v])).state ≠ (throughout c r visits).state) ∧
    (r.Ordered → ¬r.Torn t) := by
  obtain ⟨synced, hafter⟩ := throughout_eq fun v hmem => (hv v hmem).complete
  refine ⟨fun ht hran later hlater hsame => ?_, fun ht v hcomplete hread => ?_,
    fun h => h.not_torn t⟩
  · have hcomplete : ∀ v ∈ later, v.Complete c (throughout c r visits) := by
      rw [hafter]
      exact hlater
    rw [throughout, List.foldl_append]
    exact (atRest_throughout ht hv hseen hran).throughout hcomplete (by rw [hafter]; exact hsame)
  · have hall : ∀ w ∈ visits ++ [v], w.Complete c r := by
      rw [List.forall_mem_append, List.forall_mem_singleton]
      exact ⟨fun w hmem => (hv w hmem).complete, hcomplete⟩
    obtain ⟨synced', hmore⟩ := throughout_eq hall
    have hsplit : seen r.sensor (visits ++ [v]) = seen r.sensor visits ++ [t] := by
      simp [seen, hread]
    rw [hmore, hafter, hsplit, follow_append r _ _ r.synced]
    exact next_ne (r := { r with state := r.follow (seen r.sensor visits) }) ht

/-- A thermostat that was set to heat below 26 °C and to cool above 24 °C. -/
def crossed : Thermostat :=
  (fitted.set (.low ⟨0x403A000000000000⟩)).set (.high ⟨0x4038000000000000⟩)

/-- The crossed thermostat with two relays that work, after so many runs at 25 °C. -/
def pulled (runs : Nat) : Thermostat × Plant Relay :=
  after (.ofNat 0) (crossed, bench false .none)
    (List.replicate runs (.run (reading 0x4039000000000000)))

/-- **A crossed band keeps the relays switching.**  At a steady 25 °C, which is too cold and too
warm, the thermostat does not stay in the state of its second evaluation: each further one takes it
from one side to the other, with both relays. -/
theorem crossed_band_switches_on :
    (bench false .none).actuators.Working ∧
    (bench false .none).owns (.ofNat 0) crossed.heater = true ∧
    (bench false .none).owns (.ofNat 0) crossed.cooler = true ∧
    (∀ n < 4, (((pulled n).1.run (reading 0x4039000000000000)).perform (.ofNat 0)
      (pulled n).2).1.1 = .ran) ∧
    (pulled 2).1.state = .cooling ∧ (pulled 3).1.state = .heating ∧
    (pulled 4).1.state = .cooling ∧
    (pulled 2).2.isOn (.ofNat 0) = false ∧ (pulled 3).2.isOn (.ofNat 0) = true ∧
    (pulled 4).2.isOn (.ofNat 0) = false :=
  ⟨Actuators.working_of_failure_none (by decide), by decide, by decide, by decide, by decide,
    by decide, by decide, by decide, by decide, by decide⟩

/-- At a steady 20 °C a thermostat with its first settings heats, and goes on without a command. -/
theorem heating_rests_in_the_cold :
    let visits : List (Visit Relay) := [⟨cold, bench false .none⟩, ⟨cold, bench true .none⟩]
    (∀ v ∈ visits, v.Dependable (.ofNat 0) fitted) ∧
    (∀ u ∈ seen fitted.sensor visits, u = ⟨0x4034000000000000⟩) ∧
    seen fitted.sensor visits ≠ [] ∧ ¬fitted.Torn ⟨0x4034000000000000⟩ ∧
    (throughout (.ofNat 0) fitted visits).state = .heating ∧
    throughout (.ofNat 0) fitted (visits ++ visits) = throughout (.ofNat 0) fitted visits := by
  intro visits
  have hdependable : ∀ v ∈ visits, v.Dependable (.ofNat 0) fitted := by
    have hworks : ∀ on, (bench on .none).Dependable (.ofNat 0) fitted.heater ∧
        (bench on .none).Dependable (.ofNat 0) fitted.cooler := by
      intro on
      have hworking : (bench on .none).actuators.Working :=
        Actuators.working_of_failure_none (by cases on <;> decide)
      exact ⟨hworking.dependable (by cases on <;> decide),
        hworking.dependable (by cases on <;> decide)⟩
    simp only [visits, List.forall_mem_cons]
    exact ⟨hworks false, hworks true, List.forall_mem_nil _⟩
  have hsteady : ∀ u ∈ seen fitted.sensor visits, u = ⟨0x4034000000000000⟩ := by decide
  have hran : seen fitted.sensor visits ≠ [] := by decide
  obtain ⟨hrests, -, hordered⟩ := rests_unless_torn hdependable hsteady
  have hwhole := hordered ⟨by decide, by decide, by decide⟩
  exact ⟨hdependable, hsteady, hran, hwhole, by decide,
    (hrests hwhole hran visits (fun v hv => (hdependable v hv).complete) hsteady).1⟩

end Thermostat

end AquariumControl
