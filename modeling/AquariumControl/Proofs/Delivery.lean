import AquariumControl.Proofs.MainLoop
import AquariumControl.Proofs.Ownership
import AquariumControl.Proofs.Readings
import Mathlib.Data.List.Basic

/-!
# How samples are delivered

The samples of a cycle go to the end of a buffer, which drops its oldest ones when it is full, and
from there to the uplink, which takes the whole buffer or nothing.  The argument has two layers: the
main loop works the buffer as a bounded queue, and such a queue delivers in order.

* `Aquarium.freshSamples_survey` — the samples of a cycle are those of the sensors that could be
  read in it, and no others.
* `Tiding` — a sample was taken, or a batch was offered; `Queue` — a buffer that goes along with
  tidings.
* `Loop.queue` — the buffer of the main loop goes along with the tidings of its history.
* `Loop.samples_arrive_in_order` — what becomes of the samples in every history.
-/

set_option autoImplicit false

namespace AquariumControl

/-! ## What is in a journal -/

namespace Journal

/-- The batches that were offered to the uplink, with its answers. -/
def offers (j : Journal) : List (List Sample × Except TelemetryError Unit) :=
  j.filterMap fun
    | .offer batch answer => some (batch, answer)
    | .notice _ => none
    | .event _ => none

theorem offers_append (j k : Journal) : offers (j ++ k) = offers j ++ offers k :=
  List.filterMap_append

/-- There are lines for the log only: no event, and nothing that was offered to the uplink. -/
def Plain (j : Journal) : Prop :=
  ∀ entry ∈ j, ∃ n, entry = .notice n

theorem plain_nil : Plain [] := by
  intro entry hentry
  cases hentry

theorem Plain.append {j k : Journal} (hj : Plain j) (hk : Plain k) : Plain (j ++ k) :=
  List.forall_mem_append.mpr ⟨hj, hk⟩

theorem Plain.notice {j : Journal} (hj : Plain j) (n : Notice) : Plain (j ++ [.notice n]) :=
  hj.append (List.forall_mem_singleton.mpr ⟨n, rfl⟩)

theorem Plain.offers {j : Journal} (hj : Plain j) : Journal.offers j = [] := by
  refine List.filterMap_eq_nil_iff.mpr fun entry hentry => ?_
  obtain ⟨n, rfl⟩ := hj entry hentry
  rfl

end Journal

theorem ActuatorSlot.plain_switch {δ : Type} [Actuator δ] (s : ActuatorSlot δ) (on : Bool) :
    Journal.Plain (s.switch on).journal := by
  rw [switch]
  split
  · exact Journal.plain_nil
  · split
    · exact Journal.plain_nil.notice _
    · exact Journal.plain_nil

theorem Plant.plain_switch {δ : Type} [Actuator δ] {p : Plant δ} (h : Journal.Plain p.journal)
    (controller id : SlotId) (on : Bool) :
    Journal.Plain (p.switch controller id on).2.journal := by
  rw [switch]
  split
  · exact h
  · next slot _ =>
    have hswitched : Journal.Plain (p.journal ++ (slot.switch on).journal) :=
      h.append (slot.plain_switch on)
    split
    · dsimp only
      split
      · split <;> exact hswitched
      · exact hswitched.notice _
    · exact h.notice _

/-! ## The samples of a cycle -/

namespace Sensors

variable {σ : Type} [Sensor σ]

/-- What one pass over the sensors takes: the values of those that can be read, in the order of
their places. -/
def taken (sensors : Sensors σ) (uptime : UInt64) : List Sample :=
  (Registry.entries sensors).filterMap fun e =>
    match (Sensor.read e.2.device).1 with
    | .ok value => some ⟨e.1, value, uptime⟩
    | .error _ => none

theorem ascending_taken (sensors : Sensors σ) (uptime : UInt64) :
    (sensors.taken uptime).Pairwise fun s s' => s.sensor.toInt < s'.sensor.toInt := by
  rw [taken, List.pairwise_filterMap]
  refine (Registry.ascending_entries sensors).imp fun {e e'} hlt s hs s' hs' => ?_
  split at hs
  · split at hs'
    · rw [← Option.some.inj hs, ← Option.some.inj hs']
      exact hlt
    · cases hs'
  · cases hs

/-- The sensors that cannot be read, each with its error, in the order of their places. -/
def failing (sensors : Sensors σ) : List (SlotId × SensorError) :=
  (Registry.entries sensors).filterMap fun e =>
    match (Sensor.read e.2.device).1 with
    | .ok _ => none
    | .error error => some (e.1, error)

theorem failures_survey (sensors : Sensors σ) (readings : Readings) :
    (sensors.survey readings).2.failures = sensors.failing := by
  have hfold : ∀ (entries : List (SlotId × SensorSlot σ)) (s : Survey),
      (entries.foldl (fun t e => (t.take e.1 e.2).2) s).failures =
        s.failures ++ entries.filterMap fun e =>
          match (Sensor.read e.2.device).1 with
          | .ok _ => none
          | .error error => some (e.1, error) := by
    intro entries
    induction entries with
    | nil => exact fun s => (List.append_nil _).symm
    | cons e rest ih =>
      intro s
      rw [List.foldl_cons, ih, List.filterMap_cons]
      simp only [Survey.take, SensorSlot.read]
      rcases Sensor.read e.2.device with ⟨error | value, d⟩
      · exact List.append_assoc ..
      · rfl
  rw [survey, Registry.mapAccum_snd, hfold]
  rfl

end Sensors

namespace Aquarium

variable {ρ δ σ : Type} [Sensor σ]

/-- **A cycle samples the sensors that could be read in it.**  The last good value of a sensor that
failed is in the table too, but no sample is made of it. -/
theorem freshSamples_survey (sensors : Sensors σ) (readings : Readings) (uptime : UInt64) :
    freshSamples (sensors.survey readings).1 (sensors.survey readings).2 uptime =
      sensors.taken uptime := by
  have hentries : Registry.entries (sensors.survey readings).1 =
      (Registry.entries sensors).map fun e => (e.1, e.2.read.2) :=
    Registry.entries_mapAccum sensors (g := fun _ s => s.read.2) (fun s id slot => by
      rw [Survey.take]
      rcases slot.read with ⟨_ | _, slot'⟩ <;> rfl) _
  rw [freshSamples, hentries, List.filterMap_map, Sensors.taken]
  refine List.filterMap_congr fun e he => ?_
  have hid : sensors.get? e.1 = some e.2 := (Registry.mem_entries sensors).mp he
  rw [Function.comp_apply, Sensors.get?_readings_survey, Sensors.reading, hid, Option.map_some,
    Sensors.failures_survey, Sensors.failing]
  cases hread : (Sensor.read e.2.device).1 with
  | ok value =>
    -- nobody else is in this place, so the failures of others do not concern it
    rw [if_neg]
    · rfl
    · rw [List.any_eq_true]
      rintro ⟨f, hf, hsame⟩
      obtain ⟨e', he', hfailed⟩ := List.mem_filterMap.mp hf
      have hid' : sensors.get? e'.1 = some e'.2 := (Registry.mem_entries sensors).mp he'
      split at hfailed
      · cases hfailed
      · next error herror =>
        rw [← Option.some.inj hfailed, beq_iff_eq] at hsame
        rw [show e'.1 = e.1 from hsame, hid] at hid'
        rw [← Option.some.inj hid', hread] at herror
        cases herror
  | error error =>
    rw [if_pos]
    rw [List.any_eq_true]
    refine ⟨(e.1, error), List.mem_filterMap.mpr ⟨e, he, ?_⟩, beq_self_eq_true _⟩
    rw [hread]

variable [Rule ρ] [Actuator δ]

theorem telemetry_runCycle (a : Aquarium ρ δ σ) (uptime : UInt64) (time : Option TimeOfDay) :
    (a.runCycle uptime time).state.telemetry =
      (a.sensors.taken uptime).foldl Telemetry.push a.telemetry := by
  rw [← freshSamples_survey a.sensors a.readings uptime]
  rfl

/-- A cycle only writes lines into the log. -/
theorem plain_runCycle (a : Aquarium ρ δ σ) (uptime : UInt64) (time : Option TimeOfDay) :
    Journal.Plain (a.runCycle uptime time).journal := by
  have hsurvey : Journal.Plain (a.sensors.survey a.readings).2.journal := by
    refine Registry.mapAccum_induction (P := fun s : Survey => Journal.Plain s.journal)
      a.sensors (fun id slot _ s hs => ?_) Journal.plain_nil
    rw [Survey.take]
    split
    · exact hs
    · exact hs.notice _
  refine Registry.mapAccum_induction
    (P := fun acc : Plant δ × RunCounts => Journal.Plain acc.1.journal) a.controllers
    (fun id slot _ acc hacc => ?_) hsurvey
  exact Command.perform_induction (P := fun q => Journal.Plain q.journal) id
    (fun q j on hq => q.plain_switch hq id j on) (fun q n hq => hq.notice n) _ acc.1 hacc

theorem offers_runCycle (a : Aquarium ρ δ σ) (uptime : UInt64) (time : Option TimeOfDay) :
    Journal.offers (a.runCycle uptime time).journal = [] :=
  (a.plain_runCycle uptime time).offers

end Aquarium

/-! ## The buffer -/

namespace Telemetry

/-- The last 64 samples, or all if there are fewer. -/
def newest (samples : List Sample) : List Sample :=
  samples.drop (samples.length - 64)

theorem length_newest (samples : List Sample) :
    (newest samples).length = min 64 samples.length := by
  rw [newest, List.length_drop]
  omega

theorem newest_of_le {samples : List Sample} (h : samples.length ≤ 64) :
    newest samples = samples := by
  rw [newest, Nat.sub_eq_zero_of_le h, List.drop_zero]

theorem push_newest (samples : List Sample) (s : Sample) :
    push (newest samples) s = newest (samples ++ [s]) := by
  have hlength := length_newest samples
  have hcapacity : bufferCapacity = 64 := rfl
  rw [push]
  by_cases hroom : samples.length < 64
  · have happend : (samples ++ [s]).length ≤ 64 := by
      rw [List.length_append, List.length_singleton]
      omega
    rw [if_pos (by omega), newest_of_le (Nat.le_of_lt hroom), newest_of_le happend]
  · rw [if_neg (by omega), newest, newest, List.drop_drop, List.length_append,
      List.length_singleton, List.drop_append_of_le_length (by omega)]
    congr 2
    omega

end Telemetry

/-! ## Tidings -/

/-- What concerns the samples: one was taken, in the cycle with this number, or a batch was offered
to the uplink. -/
inductive Tiding
  | taken (cycle : Nat) (sample : Sample)
  | offered (batch : List Sample) (answer : Except TelemetryError Unit)

namespace Tiding

/-- All samples that were taken, each with the number of its cycle. -/
def fresh (tidings : List Tiding) : List (Nat × Sample) :=
  tidings.filterMap fun
    | .taken cycle sample => some (cycle, sample)
    | .offered _ _ => none

/-- All samples that the uplink accepted. -/
def accepted (tidings : List Tiding) : List Sample :=
  tidings.flatMap fun
    | .offered batch (.ok ()) => batch
    | .offered _ (.error _) => []
    | .taken _ _ => []

/-- The samples that wait after a tiding. -/
def await (waiting : List Sample) : Tiding → List Sample
  | .taken _ sample => waiting ++ [sample]
  | .offered _ (.ok ()) => []
  | .offered _ (.error _) => waiting

/-- The samples that were taken since a batch was accepted. -/
def unsent (tidings : List Tiding) : List Sample :=
  tidings.foldl await []

end Tiding

/-- A buffer that goes along with tidings: samples are pushed, only the whole buffer is offered and
only if it is not empty, it is empty after it was accepted, and it stays as it is if it was
refused. -/
inductive Queue : List Sample → List Tiding → List Sample → Prop
  | nil (buffer : List Sample) : Queue buffer [] buffer
  | take {buffer last : List Sample} {rest : List Tiding} (cycle : Nat) (sample : Sample)
      (h : Queue (Telemetry.push buffer sample) rest last) :
      Queue buffer (.taken cycle sample :: rest) last
  | accept {buffer last : List Sample} {rest : List Tiding} (hbuffer : buffer ≠ [])
      (h : Queue [] rest last) : Queue buffer (.offered buffer (.ok ()) :: rest) last
  | refuse {buffer last : List Sample} {rest : List Tiding} (hbuffer : buffer ≠ [])
      (error : TelemetryError) (h : Queue buffer rest last) :
      Queue buffer (.offered buffer (.error error) :: rest) last

namespace Queue

open Tiding

theorem append {buffer middle last : List Sample} {early late : List Tiding}
    (h : Queue buffer early middle) (h' : Queue middle late last) :
    Queue buffer (early ++ late) last := by
  induction h with
  | nil buffer => exact h'
  | take cycle sample _ ih => exact .take cycle sample (ih h')
  | accept hbuffer _ ih => exact .accept hbuffer (ih h')
  | refuse hbuffer error _ ih => exact .refuse hbuffer error (ih h')

theorem split {buffer last : List Sample} {early late : List Tiding}
    (h : Queue buffer (early ++ late) last) :
    ∃ middle, Queue buffer early middle ∧ Queue middle late last := by
  induction early generalizing buffer with
  | nil => exact ⟨buffer, .nil buffer, h⟩
  | cons tiding early ih =>
    cases h with
    | take cycle sample h =>
      obtain ⟨middle, hearly, hlate⟩ := ih h
      exact ⟨middle, .take cycle sample hearly, hlate⟩
    | accept hbuffer h =>
      obtain ⟨middle, hearly, hlate⟩ := ih h
      exact ⟨middle, .accept hbuffer hearly, hlate⟩
    | refuse hbuffer error h =>
      obtain ⟨middle, hearly, hlate⟩ := ih h
      exact ⟨middle, .refuse hbuffer error hearly, hlate⟩

/-- Samples are pushed one after the other. -/
theorem push (cycle : Nat) (samples buffer : List Sample) :
    Queue buffer (samples.map (.taken cycle)) (samples.foldl Telemetry.push buffer) := by
  induction samples generalizing buffer with
  | nil => exact .nil buffer
  | cons s rest ih => exact .take cycle s (ih _)

/-- **The buffer has the newest of the samples that wait.** -/
theorem newest (waiting : List Sample) {last : List Sample} {tidings : List Tiding}
    (h : Queue (Telemetry.newest waiting) tidings last) :
    last = Telemetry.newest (tidings.foldl await waiting) := by
  generalize hbuffer : Telemetry.newest waiting = buffer at h
  induction h generalizing waiting with
  | nil buffer => exact hbuffer.symm
  | take cycle sample _ ih =>
    rw [List.foldl_cons, await]
    refine ih _ ?_
    rw [← Telemetry.push_newest, hbuffer]
  | accept _ _ ih => exact ih [] rfl
  | refuse _ error _ ih => exact ih waiting hbuffer

/-- Only the whole buffer is offered. -/
theorem offered {buffer last batch : List Sample} {answer : Except TelemetryError Unit}
    {late : List Tiding} (h : Queue buffer (.offered batch answer :: late) last) :
    batch = buffer ∧ buffer ≠ [] := by
  cases h with
  | accept hbuffer _ => exact ⟨rfl, hbuffer⟩
  | refuse hbuffer _ _ => exact ⟨rfl, hbuffer⟩

/-- **What was accepted and what still waits are, in this order, some of the samples that were in
the buffer or have been taken since.** -/
theorem sublist {buffer last : List Sample} {tidings : List Tiding}
    (h : Queue buffer tidings last) :
    ∀ first : List (Nat × Sample), first.map Prod.snd = buffer →
      ∃ kept : List (Nat × Sample), kept.Sublist (first ++ fresh tidings) ∧
        kept.map Prod.snd = accepted tidings ++ last := by
  induction h with
  | nil buffer => exact fun first hfirst => ⟨first, List.sublist_append_left .., hfirst⟩
  | @take buffer last rest cycle sample _ ih =>
    intro first hfirst
    -- the oldest entry goes with the oldest sample
    obtain ⟨first', hsub, hfirst'⟩ : ∃ first' : List (Nat × Sample),
        first'.Sublist (first ++ [(cycle, sample)]) ∧
          first'.map Prod.snd = Telemetry.push buffer sample := by
      rw [Telemetry.push]
      split
      · exact ⟨_, .refl _, by rw [List.map_append, hfirst]; rfl⟩
      · exact ⟨first.drop 1 ++ [(cycle, sample)], (List.drop_sublist ..).append_right _,
          by rw [List.map_append, List.map_drop, hfirst]; rfl⟩
    obtain ⟨kept, hkept, hmap⟩ := ih first' hfirst'
    refine ⟨kept, hkept.trans ?_, hmap⟩
    have happend := hsub.append_right (fresh rest)
    rwa [List.append_assoc] at happend
  | @accept buffer last rest _ _ ih =>
    intro first hfirst
    obtain ⟨kept, hkept, hmap⟩ := ih [] rfl
    refine ⟨first ++ kept, hkept.append_left first, ?_⟩
    rw [List.map_append, hfirst, hmap]
    exact (List.append_assoc ..).symm
  | refuse _ error _ ih => exact ih

end Queue

/-! ## One transmission -/

/-- What becomes of a buffer, and what is offered: nothing, or the whole buffer. -/
inductive Transmission :
    List Sample → List (List Sample × Except TelemetryError Unit) → List Sample → Prop
  | none (buffer : List Sample) : Transmission buffer [] buffer
  | accept {buffer : List Sample} (hbuffer : buffer ≠ []) :
      Transmission buffer [(buffer, .ok ())] []
  | refuse {buffer : List Sample} (hbuffer : buffer ≠ []) (error : TelemetryError) :
      Transmission buffer [(buffer, .error error)] buffer

theorem Transmission.queue {buffer last : List Sample}
    {offers : List (List Sample × Except TelemetryError Unit)}
    (h : Transmission buffer offers last) :
    Queue buffer (offers.map fun o => .offered o.1 o.2) last := by
  cases h with
  | none => exact .nil buffer
  | accept hbuffer => exact .accept hbuffer (.nil [])
  | refuse hbuffer error => exact .refuse hbuffer error (.nil buffer)

theorem Transmission.of_mem {buffer last batch : List Sample}
    {offers : List (List Sample × Except TelemetryError Unit)}
    {answer : Except TelemetryError Unit} (h : Transmission buffer offers last)
    (hoffer : (batch, answer) ∈ offers) :
    batch = buffer ∧ last = Tiding.await buffer (.offered batch answer) := by
  cases h with
  | none => cases hoffer
  | accept _ =>
    obtain ⟨rfl, rfl⟩ := Prod.mk.inj (List.mem_singleton.mp hoffer)
    exact ⟨rfl, rfl⟩
  | refuse _ error =>
    obtain ⟨rfl, rfl⟩ := Prod.mk.inj (List.mem_singleton.mp hoffer)
    exact ⟨rfl, rfl⟩

namespace Scheduler

theorem offers_cycleReport (r : CycleReport) : Journal.offers (cycleReport r) = [] := by
  simp [Journal.offers, cycleReport]

variable {ρ δ σ : Type}

theorem transmission_flush (s : Scheduler) (a : Aquarium ρ δ σ) (now : UInt64) (uplink : Uplink) :
    Transmission a.telemetry (Journal.offers (s.flush a now uplink).journal)
      (s.flush a now uplink).state.2.telemetry := by
  simp only [flush]
  split
  · exact .none _
  · next hsome =>
    have hbuffer : a.telemetry ≠ [] := fun h => hsome (List.isEmpty_iff.mpr h)
    split
    · rw [Aquarium.discardTelemetry, List.drop_length]
      exact .accept hbuffer
    · next error _ => exact .refuse hbuffer error

theorem transmission_transmit (s : Scheduler) (a : Aquarium ρ δ σ) (now : UInt64)
    (uplink : Uplink) :
    Transmission a.telemetry (Journal.offers (s.transmit a now uplink).journal)
      (s.transmit a now uplink).state.2.telemetry := by
  rw [transmit]
  split
  · exact s.transmission_flush a now uplink
  · exact .none _

variable [Rule ρ] [Actuator δ] [Sensor σ]

/-- The samples of a cycle go into the buffer before it is offered. -/
theorem transmission_act (s : Scheduler) (a : Aquarium ρ δ σ) (now : UInt64)
    (time : Option TimeOfDay) (uplink : Uplink) :
    Transmission ((a.sensors.taken now).foldl Telemetry.push a.telemetry)
      (Journal.offers (s.act a now time uplink).journal)
      (s.act a now time uplink).state.2.telemetry := by
  have hsent := s.transmission_transmit (a.runCycle now time).state now uplink
  rw [a.telemetry_runCycle now time] at hsent
  simp only [act, Journal.offers_append, a.offers_runCycle, offers_cycleReport, List.nil_append]
  exact hsent

end Scheduler

/-! ## The main loop -/

namespace Loop

open Tiding

variable {ρ δ σ : Type} [Rule ρ] [Actuator δ] [Sensor σ]

/-- The samples that a happening brings, if it runs a cycle. -/
def samples (l : Loop ρ δ σ) (x : Happening ρ δ σ) : List Sample :=
  match x, (l.turn x).report with
  | .pass now _ _, some _ => l.aquarium.sensors.taken now
  | _, _ => []

/-- The tidings of one turn: first the samples of its cycle, which is given a number, then the
offer. -/
def turnTidings (l : Loop ρ δ σ) (cycle : Nat) (x : Happening ρ δ σ) : List Tiding :=
  (l.samples x).map (.taken cycle) ++
    (Journal.offers (l.turn x).journal).map fun o => .offered o.1 o.2

/-- The tidings of a history, whose first cycle has a given number. -/
def tidingsFrom (l : Loop ρ δ σ) (cycle : Nat) : List (Happening ρ δ σ) → List Tiding
  | [] => []
  | x :: rest =>
    l.turnTidings cycle x ++
      (l.after x).state.tidingsFrom (if (l.turn x).report.isSome then cycle + 1 else cycle) rest

/-- The tidings of a history. -/
def tidings (l : Loop ρ δ σ) (history : List (Happening ρ δ σ)) : List Tiding :=
  l.tidingsFrom 1 history

/-- What a turn takes and offers. -/
theorem turn_cases (l : Loop ρ δ σ) (x : Happening ρ δ σ) :
    Transmission ((l.samples x).foldl Telemetry.push l.aquarium.telemetry)
        (Journal.offers (l.turn x).journal) (l.turn x).aquarium.telemetry ∧
      (l.samples x = [] ∨
        (l.turn x).report.isSome = true ∧ ∃ now, l.samples x = l.aquarium.sensors.taken now) := by
  cases x with
  | tick => exact ⟨.none _, .inl rfl⟩
  | flush now uplink => exact ⟨l.scheduler.transmission_flush l.aquarium now uplink, .inl rfl⟩
  | change c =>
    refine ⟨?_, .inl rfl⟩
    simp only [turn, after, c.telemetry_apply]
    exact .none _
  | pass now time uplink =>
    simp only [samples, turn, after]
    cases hdue : (Scheduler.poll l.scheduler.mode l.tick).1 with
    | false =>
      rw [Scheduler.step_of_idle hdue]
      exact ⟨.none _, .inl rfl⟩
    | true =>
      rw [Scheduler.step_of_due hdue]
      exact ⟨l.scheduler.transmission_act l.aquarium now time uplink, .inr ⟨rfl, now, rfl⟩⟩

/-- **The buffer of the main loop goes along with the tidings of its history.** -/
theorem queue (l : Loop ρ δ σ) (cycle : Nat) (history : List (Happening ρ δ σ)) :
    Queue l.aquarium.telemetry (l.tidingsFrom cycle history)
      (l.run history).aquarium.telemetry := by
  induction history generalizing l cycle with
  | nil => exact .nil _
  | cons x rest ih =>
    have hturn := (l.turn_cases x).1.queue
    exact ((Queue.push cycle _ _).append hturn).append (ih _ _)

/-! ## The order of samples -/

theorem fresh_turnTidings (l : Loop ρ δ σ) (cycle : Nat) (x : Happening ρ δ σ) :
    fresh (l.turnTidings cycle x) = (l.samples x).map (cycle, ·) := by
  rw [turnTidings, fresh, List.filterMap_append, List.filterMap_map, List.filterMap_map]
  refine (congrArg₂ List.append (congrFun List.filterMap_eq_map _) ?_).trans (List.append_nil _)
  exact List.filterMap_eq_nil_iff.mpr fun _ _ => rfl

/-- Samples are taken in ascending order of the cycles, and within a cycle in that of the
sensors. -/
def Earlier (s s' : Nat × Sample) : Prop :=
  s.1 < s'.1 ∨ s.1 = s'.1 ∧ s.2.sensor.toInt < s'.2.sensor.toInt

theorem Earlier.ne {s s' : Nat × Sample} (h : Earlier s s') : s ≠ s' := by
  rintro rfl
  rcases h with h | ⟨-, h⟩
  · exact Nat.lt_irrefl _ h
  · exact Int.lt_irrefl _ h

/-- **Samples are taken in order**, in the first cycle or later. -/
theorem earlier_fresh (l : Loop ρ δ σ) (cycle : Nat) (history : List (Happening ρ δ σ)) :
    (fresh (l.tidingsFrom cycle history)).Pairwise Earlier ∧
      ∀ s ∈ fresh (l.tidingsFrom cycle history), cycle ≤ s.1 := by
  induction history generalizing l cycle with
  | nil => exact ⟨.nil, fun s hs => absurd hs List.not_mem_nil⟩
  | cons x rest ih =>
    have hfresh : fresh (l.tidingsFrom cycle (x :: rest)) =
        (l.samples x).map (cycle, ·) ++ fresh ((l.after x).state.tidingsFrom
          (if (l.turn x).report.isSome then cycle + 1 else cycle) rest) := by
      rw [tidingsFrom, ← l.fresh_turnTidings cycle x]
      exact List.filterMap_append
    rw [hfresh]
    rcases (l.turn_cases x).2 with hsamples | ⟨hreport, now, hsamples⟩
    · obtain ⟨hrest, hlater⟩ := ih (l.after x).state
        (if (l.turn x).report.isSome then cycle + 1 else cycle)
      rw [hsamples]
      refine ⟨hrest, fun s hs => Nat.le_trans ?_ (hlater s hs)⟩
      split
      · exact Nat.le_succ cycle
      · exact Nat.le_refl cycle
    · obtain ⟨hrest, hlater⟩ := ih (l.after x).state (cycle + 1)
      rw [hsamples, if_pos hreport]
      have hcycle : ∀ s ∈ (l.aquarium.sensors.taken now).map (cycle, ·), s.1 = cycle :=
        List.forall_mem_map.mpr fun _ _ => rfl
      constructor
      · refine List.pairwise_append.mpr ⟨?_, hrest, fun s hs s' hs' => .inl ?_⟩
        · rw [List.pairwise_map]
          exact (l.aquarium.sensors.ascending_taken now).imp fun hlt => .inr ⟨rfl, hlt⟩
        · rw [hcycle s hs]
          exact hlater s' hs'
      · intro s hs
        rcases List.mem_append.mp hs with hs | hs
        · exact Nat.le_of_eq (hcycle s hs).symm
        · exact Nat.le_of_succ_le (hlater s hs)

/-- **Samples arrive in order, none twice, and only the overflow is lost.**  Whatever happens to a
loop whose buffer is empty at first, the buffer has the last 64 of the samples that were taken since
a batch was accepted, or all if there are fewer.  What is offered is always the whole buffer, which
has the samples of the cycle in it already; it is empty after it was accepted and unchanged after it
was refused.  What was accepted, and after it what still waits, are some of the samples that were
taken, in the order of their cycles and sensors and each at most once. -/
theorem samples_arrive_in_order (l : Loop ρ δ σ) (hempty : l.aquarium.telemetry = [])
    (history : List (Happening ρ δ σ)) :
    (l.run history).aquarium.telemetry = Telemetry.newest (unsent (l.tidings history)) ∧
    (∀ early batch answer late, l.tidings history = early ++ .offered batch answer :: late →
      batch = Telemetry.newest (unsent early) ∧ batch ≠ []) ∧
    (∀ front x back, history = front ++ x :: back → ∀ batch answer,
      (batch, answer) ∈ Journal.offers ((l.run front).turn x).journal →
        batch = ((l.run front).samples x).foldl Telemetry.push
            (l.run front).aquarium.telemetry ∧
          (l.run (front ++ [x])).aquarium.telemetry =
            match answer with
            | .ok () => []
            | .error _ => batch) ∧
    (fresh (l.tidings history)).Pairwise Earlier ∧
    ∃ kept : List (Nat × Sample), kept.Sublist (fresh (l.tidings history)) ∧ kept.Nodup ∧
      kept.map Prod.snd = accepted (l.tidings history) ++ (l.run history).aquarium.telemetry := by
  have hqueue : Queue [] (l.tidings history) _ := hempty ▸ l.queue 1 history
  have hfresh : (fresh (l.tidings history)).Pairwise Earlier := (l.earlier_fresh 1 history).1
  refine ⟨Queue.newest [] hqueue, ?_, ?_, hfresh, ?_⟩
  · intro early batch answer late hsplit
    rw [hsplit] at hqueue
    obtain ⟨middle, hearly, hlate⟩ := hqueue.split
    obtain ⟨rfl, hbuffer⟩ := hlate.offered
    exact ⟨Queue.newest [] hearly, hbuffer⟩
  · intro front x back hsplit batch answer hoffer
    obtain ⟨rfl, hlast⟩ := ((l.run front).turn_cases x).1.of_mem hoffer
    refine ⟨rfl, ?_⟩
    rw [run, List.foldl_append]
    refine hlast.trans ?_
    rcases answer with error | ⟨⟩ <;> rfl
  · obtain ⟨kept, hkept, hmap⟩ := hqueue.sublist [] rfl
    exact ⟨kept, hkept, (hfresh.sublist hkept).imp Earlier.ne, hmap⟩

/-- A loop that sends samples every two seconds. -/
def pond : Loop AnyRule Relay Probe :=
  ⟨⟨.polling, true, 2000, 0⟩, .idle, Aquarium.empty⟩

/-- The second sensor fails in the first cycle.  The uplink is offline after the second one and is
asked again at once; then the first sensor goes. -/
def outing : List (Happening AnyRule Relay Probe) :=
  [.change (.addSensor "steady" ⟨.ok Binary64.one⟩), .change (.addSensor "late" Probe.silent),
    .pass 1000 none (fun _ => .ok ()),
    .change (.turnSensor (.ofNat 1) ⟨.ok Binary64.one⟩),
    .pass 2000 none (fun _ => .error .offline), .flush 3000 (fun _ => .ok ()),
    .change (.removeSensor (.ofNat 0)), .pass 4000 none (fun _ => .ok ())]

/-- What the uplink refused it has got in the end, and the last sample waits. -/
theorem refused_samples_are_sent_later :
    pond.aquarium.telemetry = [] ∧
      accepted (pond.tidings outing) =
        [⟨.ofNat 0, .one, 1000⟩, ⟨.ofNat 0, .one, 2000⟩, ⟨.ofNat 1, .one, 2000⟩] ∧
      (pond.run outing).aquarium.telemetry = [⟨.ofNat 1, .one, 4000⟩] ∧
      Telemetry.newest (unsent (pond.tidings outing)) = [⟨.ofNat 1, .one, 4000⟩] ∧
      ∃ kept : List (Nat × Sample), kept.Sublist (fresh (pond.tidings outing)) ∧ kept.Nodup ∧
        kept.map Prod.snd =
          [⟨.ofNat 0, .one, 1000⟩, ⟨.ofNat 0, .one, 2000⟩, ⟨.ofNat 1, .one, 2000⟩,
            ⟨.ofNat 1, .one, 4000⟩] := by
  obtain ⟨hbuffer, -, -, -, kept, hkept, hnodup, hmap⟩ := samples_arrive_in_order pond rfl outing
  have haccepted : accepted (pond.tidings outing) =
      [⟨.ofNat 0, .one, 1000⟩, ⟨.ofNat 0, .one, 2000⟩, ⟨.ofNat 1, .one, 2000⟩] := by
    decide +kernel
  have hlast : (pond.run outing).aquarium.telemetry = [⟨.ofNat 1, .one, 4000⟩] := by
    decide +kernel
  refine ⟨rfl, haccepted, hlast, hbuffer ▸ hlast, kept, hkept, hnodup, ?_⟩
  rw [hmap, haccepted, hlast]
  rfl

end Loop

end AquariumControl
