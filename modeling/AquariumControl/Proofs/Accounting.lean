import AquariumControl.Bench.Relay
import AquariumControl.Bench.Script
import AquariumControl.Proofs.Cursor
import AquariumControl.Proofs.Delivery
import AquariumControl.Proofs.Provenance

/-!
# What a cycle accounts for

A cycle makes a round of the sensors and then one of the controllers, and its report says how many
objects it came to and what became of them.  The controllers are reached through the cursor, which
may be anywhere when the cycle begins.

* `Registry.visits` — the visits of a round, each with the state that it found and the one that it
  left.
* `Registry.Tour` — a round that comes to everyone once, in ascending order.
* `Registry.drive` — the loop that advances the cursor until nobody is left;
  `Registry.drive_rewind` says that from the first place it makes the same round as
  `Registry.mapAccum`.
* `Aquarium.cycle_accounts_for_everyone` — the two rounds of a cycle, and its report.
-/

set_option autoImplicit false

namespace AquariumControl

namespace Registry

universe u v

variable {α : Type u} {σ : Type v} {capacity : Nat}

/-! ## Visits -/

/-- A visit to an occupant: what was found in the place and what was left there, and the state that
is carried along before and after. -/
structure Visit (α : Type u) (σ : Type v) where
  place : SlotId
  found : α
  left : α
  before : σ
  after : σ

/-- The visit in state `s` to one entry. -/
def Visit.of (f : σ → SlotId → α → α × σ) (s : σ) (e : SlotId × α) : Visit α σ :=
  ⟨e.1, e.2, (f s e.1 e.2).1, s, (f s e.1 e.2).2⟩

/-- The visits to some entries, one after the other. -/
def visits (f : σ → SlotId → α → α × σ) : List (SlotId × α) → σ → List (Visit α σ)
  | [], _ => []
  | e :: rest, s => .of f s e :: visits f rest (f s e.1 e.2).2

/-- From visit to visit the state is handed on, from `s` at first to `s'` in the end. -/
def Relayed (s : σ) : List (Visit α σ) → σ → Prop
  | [], s' => s = s'
  | v :: rest, s' => v.before = s ∧ Relayed v.after rest s'

/-- A round of a registry: the visits go to every occupant once, in ascending order of the places,
each works on what it finds in the state in which the one before it ended, and the registry
afterwards has what they left. -/
structure Tour (f : σ → SlotId → α → α × σ) (r : Registry α capacity) (s : σ)
    (visits : List (Visit α σ)) (r' : Registry α capacity) (s' : σ) : Prop where
  ascending : visits.Pairwise fun v w => v.place.toInt < w.place.toInt
  found : ∀ id a, r.get? id = some a ↔ ∃ v ∈ visits, v.place = id ∧ v.found = a
  left : ∀ id a, r'.get? id = some a ↔ ∃ v ∈ visits, v.place = id ∧ v.left = a
  work : ∀ v ∈ visits, (v.left, v.after) = f v.before v.place v.found
  relayed : Relayed s visits s'

section

variable (f : σ → SlotId → α → α × σ)

theorem map_found_visits (entries : List (SlotId × α)) (s : σ) :
    (visits f entries s).map (fun v => (v.place, v.found)) = entries := by
  induction entries generalizing s with
  | nil => rfl
  | cons e rest ih =>
    rw [visits, List.map_cons, ih]
    rfl

theorem length_visits (entries : List (SlotId × α)) (s : σ) :
    (visits f entries s).length = entries.length := by
  rw [← List.length_map (fun v : Visit α σ => (v.place, v.found)), map_found_visits]

theorem work_visits (entries : List (SlotId × α)) (s : σ) :
    ∀ v ∈ visits f entries s, (v.left, v.after) = f v.before v.place v.found := by
  induction entries generalizing s with
  | nil => exact List.forall_mem_nil _
  | cons e rest ih => exact List.forall_mem_cons.mpr ⟨rfl, ih _⟩

theorem relayed_visits (entries : List (SlotId × α)) (s : σ) :
    Relayed s (visits f entries s) (entries.foldl (fun t e => (f t e.1 e.2).2) s) := by
  induction entries generalizing s with
  | nil => rfl
  | cons e rest ih => exact ⟨rfl, ih _⟩

/-- The entries among the places from number `i` on. -/
def entriesFrom (i : Nat) (slots : List (Option α)) : List (SlotId × α) :=
  ((slots.zipIdx i).map fun p => (SlotId.ofNat p.2, p.1)).filterMap fun p =>
    p.2.map fun a => (p.1, a)

theorem entriesFrom_taken (i : Nat) (a : α) (rest : List (Option α)) :
    entriesFrom i (some a :: rest) = (.ofNat i, a) :: entriesFrom (i + 1) rest := rfl

/-- What a pass leaves in the places is what its visits left. -/
theorem entriesFrom_sweep :
    ∀ (slots : List (Option α)) (i : Nat) (s : σ),
      entriesFrom i (sweep f i slots s).1 =
        (visits f (entriesFrom i slots) s).map fun v => (v.place, v.left)
  | [], _, _ => rfl
  | none :: rest, i, s => entriesFrom_sweep rest (i + 1) s
  | some a :: rest, i, s => by
    rw [entriesFrom_taken, visits, List.map_cons, ← entriesFrom_sweep rest, sweep]
    rfl

/-- **A pass is a round** of the registry. -/
theorem tour_mapAccum (r : Registry α capacity) (s : σ) :
    Tour f r s (visits f r.entries s) (r.mapAccum f s).1 (r.mapAccum f s).2 where
  ascending := by
    have hascending := r.ascending_entries
    rw [← map_found_visits f r.entries s, List.pairwise_map] at hascending
    exact hascending
  found id a := by
    rw [← r.mem_entries, ← map_found_visits f r.entries s, List.mem_map]
    simp only [Prod.mk.injEq, map_found_visits]
  left id a := by
    have hentries : (r.mapAccum f s).1.entries =
        (visits f r.entries s).map fun v => (v.place, v.left) :=
      entriesFrom_sweep f r.slots 0 s
    rw [← mem_entries, hentries, List.mem_map]
    simp only [Prod.mk.injEq]
  work := work_visits f r.entries s
  relayed := r.mapAccum_snd f s ▸ relayed_visits f r.entries s

end

/-! ## The loop over the cursor -/

/-- What a loop comes to: its visits, and what is left of the registry and the state. -/
structure Round (α : Type u) (σ : Type v) (capacity : Nat) where
  visits : List (Visit α σ)
  registry : Registry α capacity
  state : σ

/-- An advance that yields somebody brings the cursor nearer to the end. -/
theorem cursor_next {r : Registry α capacity} {e : SlotId × α} (h : r.next.1 = some e) :
    capacity - r.next.2.cursor < capacity - r.cursor := by
  rcases r.yields_or_ends with ⟨i, a, hi⟩ | hend
  · have hle := hi.le
    have hlt := hi.lt
    rw [hi.next_eq]
    dsimp only
    omega
  · rw [hend.next_eq] at h
    cases h

theorem slots_modify (r : Registry α capacity) {i : Nat} {a : α} (hi : i < capacity)
    (h : r.get? (.ofNat i) = some a) (g : α → α) :
    (r.modify (.ofNat i) g).slots = r.slots.set i (some (g a)) := by
  have hcap := r.capacity_le
  rw [SlotId.ofNat_of_lt (by omega)] at h ⊢
  simp only [modify, h, setSlot]

/-- Advances the cursor until it finds nobody any more, and visits whom it yields. -/
def drive (f : σ → SlotId → α → α × σ) (r : Registry α capacity) (s : σ) : Round α σ capacity :=
  match _h : r.next.1 with
  | none => ⟨[], r.next.2, s⟩
  | some e =>
    let visit := Visit.of f s e
    let rest := drive f (r.next.2.modify e.1 fun _ => visit.left) visit.after
    ⟨visit :: rest.visits, rest.registry, rest.state⟩
termination_by capacity - r.cursor
decreasing_by
  rw [cursor_modify]
  exact cursor_next ‹r.next.1 = some e›

section

variable {f : σ → SlotId → α → α × σ}

theorem drive_of_none {r r' : Registry α capacity} (h : r.next = (none, r')) (s : σ) :
    r.drive f s = ⟨[], r', s⟩ := by
  rw [drive]
  split
  · rw [h]
  · next hnext =>
    rw [h] at hnext
    cases hnext

theorem drive_of_some {r r' : Registry α capacity} {e : SlotId × α} (h : r.next = (some e, r'))
    (s : σ) :
    r.drive f s =
      let rest := (r'.modify e.1 fun _ => (f s e.1 e.2).1).drive f (f s e.1 e.2).2
      ⟨.of f s e :: rest.visits, rest.registry, rest.state⟩ := by
  rw [drive]
  split
  · next hnext =>
    rw [h] at hnext
    cases hnext
  · next e' hnext =>
    rw [h] at hnext ⊢
    obtain rfl := Option.some.inj hnext
    rfl

/-- A free place makes no difference to the loop. -/
theorem drive_of_free {r : Registry α capacity} (hlt : r.cursor < capacity)
    (h : r.get? (.ofNat r.cursor) = none) (s : σ) :
    r.drive f s = { r with cursor := r.cursor + 1 }.drive f s := by
  have hnext := next_of_free hlt h
  cases hadvance : r.next with
  | mk answer r' =>
    rw [hadvance] at hnext
    cases answer with
    | none => rw [drive_of_none hadvance, drive_of_none hnext.symm]
    | some e => rw [drive_of_some hadvance, drive_of_some hnext.symm]

/-- **The loop, place by place**: from the cursor on it does what a pass does. -/
theorem drive_eq {front back : List (Option α)} {r : Registry α capacity}
    (hslots : r.slots = front ++ back) (hcursor : r.cursor = front.length) (s : σ) :
    (r.drive f s).visits = visits f (entriesFrom front.length back) s ∧
      (r.drive f s).registry.slots = front ++ (sweep f front.length back s).1 ∧
      (r.drive f s).registry.cursor = capacity ∧
      (r.drive f s).state = (sweep f front.length back s).2 := by
  have hlen := r.length_slots
  rw [hslots, List.length_append] at hlen
  induction back generalizing front r s with
  | nil =>
    have hend : capacity ≤ r.cursor := by
      rw [List.length_nil] at hlen
      omega
    rw [drive_of_none (next_of_le hend)]
    exact ⟨rfl, hslots, rfl, rfl⟩
  | cons o rest ih =>
    rw [List.length_cons] at hlen
    have hlt : r.cursor < capacity := by omega
    have hget : r.get? (.ofNat r.cursor) = o := by
      have hin : r.cursor < r.slots.length := r.length_slots.symm ▸ hlt
      rw [r.get?_ofNat_eq hin]
      simp only [hslots, hcursor, List.getElem_append_right (Nat.le_refl _), Nat.sub_self,
        List.getElem_cons_zero]
    -- what has been done belongs to the front now
    have hshift : ∀ o : Option α, (front ++ [o]).length = front.length + 1 := fun o =>
      List.length_append
    cases o with
    | none =>
      have hpassed : { r with cursor := r.cursor + 1 }.slots = (front ++ [none]) ++ rest := by
        rw [List.append_assoc]
        exact hslots
      have hrest := ih hpassed (by rw [hshift, hcursor]) s (by rw [hshift]; omega)
      rw [hshift, List.append_assoc] at hrest
      rw [drive_of_free hlt hget]
      exact hrest
    | some a =>
      have hmodify : ({ r with cursor := r.cursor + 1 }.modify (.ofNat r.cursor) fun _ =>
          (f s (.ofNat r.cursor) a).1).slots =
            (front ++ [some (f s (.ofNat r.cursor) a).1]) ++ rest := by
        refine (slots_modify { r with cursor := r.cursor + 1 } hlt hget _).trans ?_
        rw [List.append_assoc, hcursor, hslots, List.set_append_right _ _ (Nat.le_refl _),
          Nat.sub_self]
        rfl
      have hrest := ih hmodify (by rw [cursor_modify, hshift, hcursor])
        (f s (.ofNat r.cursor) a).2 (by rw [hshift]; omega)
      rw [hshift, List.append_assoc] at hrest
      obtain ⟨hvisits, hslots', hcursor', hstate⟩ := hrest
      rw [drive_of_some (next_of_taken hlt hget), entriesFrom_taken, visits, sweep, ← hcursor]
      rw [← hcursor] at hvisits hslots' hstate
      exact ⟨congrArg _ hvisits, hslots', hcursor', hstate⟩

/-- **From the first place the loop makes the same round as a pass**, wherever the cursor was
before, and leaves the cursor at the end. -/
theorem drive_rewind (r : Registry α capacity) (s : σ) :
    r.rewind.drive f s =
      ⟨visits f r.entries s, (r.mapAccum f s).1.exhaust, (r.mapAccum f s).2⟩ := by
  obtain ⟨hvisits, hslots, hcursor, hstate⟩ :=
    drive_eq (f := f) (show r.rewind.slots = [] ++ r.slots from rfl) rfl s
  cases hround : r.rewind.drive f s with
  | mk visited registry state =>
    rw [hround] at hvisits hslots hcursor hstate
    obtain ⟨slots, cursor, hlength, hcap⟩ := registry
    obtain rfl : slots = (sweep f 0 r.slots s).1 := hslots
    obtain rfl : cursor = capacity := hcursor
    obtain rfl : state = (sweep f 0 r.slots s).2 := hstate
    obtain rfl : visited = visits f r.entries s := hvisits
    rfl

end

end Registry

/-! ## The sensors -/

/-- Puts an entry at the end of a list that has room for so many, or drops it. -/
def keep {β : Type} (room : Nat) (log : List β) (x : β) : List β :=
  if log.length < room then log ++ [x] else log

theorem foldl_keep {β : Type} {room : Nat} (entries : List β) :
    ∀ log : List β, log.length + entries.length ≤ room →
      entries.foldl (keep room) log = log ++ entries := by
  induction entries with
  | nil => exact fun log _ => (List.append_nil log).symm
  | cons x rest ih =>
    intro log hroom
    rw [List.length_cons] at hroom
    have hrest : (log ++ [x]).length + rest.length ≤ room := by
      rw [List.length_append, List.length_singleton]
      omega
    rw [List.foldl_cons, keep, if_pos (by omega), ih _ hrest, List.append_assoc]
    rfl

namespace Sensors

open Registry

variable {σ : Type} [Sensor σ]

theorem take_fst (survey : Survey) (id : SlotId) (slot : SensorSlot σ) :
    (survey.take id slot).1 = slot.read.2 := by
  rw [Survey.take]
  rcases slot.read with ⟨_ | _, slot'⟩ <;> rfl

/-- A visit to a sensor counts it on one of the two sides. -/
theorem account_take (survey : Survey) (id : SlotId) (slot : SensorSlot σ) :
    (survey.take id slot).2.read + (survey.take id slot).2.failures.length =
      survey.read + survey.failures.length + 1 := by
  rw [Survey.take]
  rcases slot.read with ⟨_ | _, slot'⟩
  · exact congrArg (survey.read + ·) List.length_append
  · exact Nat.add_right_comm ..

/-- **Everyone is counted**: the values and the failures of a pass are as many as the sensors. -/
theorem account_survey (sensors : Sensors σ) (readings : Readings) :
    (sensors.survey readings).2.read + (sensors.survey readings).2.failures.length =
      sensors.size := by
  have hfold : ∀ (entries : List (SlotId × SensorSlot σ)) (s : Survey),
      (entries.foldl (fun t e => (t.take e.1 e.2).2) s).read +
          (entries.foldl (fun t e => (t.take e.1 e.2).2) s).failures.length =
        s.read + s.failures.length + entries.length := by
    intro entries
    induction entries with
    | nil => exact fun s => rfl
    | cons e rest ih =>
      intro s
      rw [List.foldl_cons, ih, account_take, List.length_cons]
      omega
  rw [survey, mapAccum_snd, hfold, size_eq_length_entries]
  exact Nat.zero_add _

/-- The failure that a visit met with, if the sensor could not be read. -/
def failure? (v : Visit (SensorSlot σ) Survey) : Option (SlotId × SensorError) :=
  match (Sensor.read v.found.device).1 with
  | .ok _ => none
  | .error error => some (v.place, error)

theorem failing_eq_filterMap_visits (sensors : Sensors σ) (s : Survey) :
    sensors.failing = (visits Survey.take (Registry.entries sensors) s).filterMap failure? := by
  rw [failing]
  conv => lhs; rw [← map_found_visits Survey.take (Registry.entries sensors) s]
  rw [List.filterMap_map]
  rfl

theorem length_failures_le (sensors : Sensors σ) (readings : Readings) :
    (sensors.survey readings).2.failures.length ≤ sensorCapacity := by
  have haccount := sensors.account_survey readings
  have hsize : Registry.size sensors ≤ sensorCapacity :=
    Nat.le_trans List.countP_le_length (Nat.le_of_eq sensors.length_slots)
  omega

end Sensors

/-! ## The controllers -/

theorem RunCounts.foldl_add (statuses : List RunStatus) (c : RunCounts) :
    statuses.foldl add c = ⟨c.run + statuses.count .ran, c.skipped + statuses.count .skipped,
      c.latched + statuses.count .latched⟩ := by
  induction statuses generalizing c with
  | nil => rfl
  | cons status rest ih =>
    rw [List.foldl_cons, ih]
    cases status <;> simp [add] <;> omega

/-- How many rules ended in one way. -/
def CycleReport.ended (r : CycleReport) : RunStatus → Nat
  | .ran => r.run
  | .skipped => r.skipped
  | .latched => r.latched

/-- Every run ended in one of three ways. -/
theorem RunStatus.count_add (statuses : List RunStatus) :
    statuses.count .ran + statuses.count .skipped + statuses.count .latched = statuses.length := by
  induction statuses with
  | nil => rfl
  | cons status rest ih =>
    cases status <;> simp <;> omega

namespace Aquarium

open Registry

variable {ρ δ σ τ : Type} [Rule ρ] [Actuator δ] [Sensor σ]

/-- What comes of the rule in a place when it is visited, with these readings and at this time. -/
def performance (readings : Readings) (uptime : UInt64) (time : Option TimeOfDay)
    (v : Visit (ControllerSlot ρ) (Plant δ × RunCounts)) : (RunStatus × ρ) × Plant δ :=
  (Rule.run v.found.rule ⟨v.place, readings, uptime, time⟩).perform v.place v.before.1

/-- How the rules ended is counted visit by visit. -/
theorem counts_visits (readings : Readings) (uptime : UInt64) (time : Option TimeOfDay)
    (entries : List (SlotId × ControllerSlot ρ)) (acc : Plant δ × RunCounts) :
    (entries.foldl (fun t e => (runRule readings uptime time t e.1 e.2).2) acc).2 =
      ((visits (runRule readings uptime time) entries acc).map fun v =>
        (performance readings uptime time v).1.1).foldl RunCounts.add acc.2 := by
  induction entries generalizing acc with
  | nil => rfl
  | cons e rest ih =>
    rw [List.foldl_cons, ih]
    rfl

/-! ## The number of the cycle -/

/-- Everything that can be done with an aquarium. -/
inductive Use (ρ δ σ τ : Type)
  | access (x : Access ρ δ σ τ)
  | changeSensors (f : Sensors σ → Sensors σ)

/-- What is left after a use. -/
def Use.after [Storage τ] (s : Aquarium ρ δ σ × ConfigStore τ) :
    Use ρ δ σ τ → Aquarium ρ δ σ × ConfigStore τ
  | .access x => x.after s
  | .changeSensors f => ({ s.1 with sensors := f s.1.sensors }, s.2)

/-- Whether a use is a cycle. -/
def Use.isCycle : Use ρ δ σ τ → Bool
  | .access (.operate (.runCycle _ _)) => true
  | _ => false

omit [Rule ρ] [Actuator δ] [Sensor σ] in
theorem cycles_assignActuator {a a' : Aquarium ρ δ σ} {actuator controller : SlotId}
    (h : a.assignActuator actuator controller = .ok a') : a'.cycles = a.cycles := by
  rw [assignActuator] at h
  split at h
  · cases h
  · split at h
    · rw [← Except.ok.inj h]
    · cases h

theorem Use.cycles_after [Storage τ] (s : Aquarium ρ δ σ × ConfigStore τ) (x : Use ρ δ σ τ) :
    (x.after s).1.cycles = if x.isCycle then s.1.cycles + 1 else s.1.cycles := by
  cases x with
  | changeSensors f => rfl
  | access x =>
    cases x with
    | operate op =>
      cases op with
      | runCycle uptime time => rfl
      | saveAll => rfl
      | assignActuator actuator controller =>
        simp only [after, Access.after, Operation.after]
        split
        · next hok => exact cycles_assignActuator hok
        · rfl
      | addController _ _ | addActuator _ _ | addSensor _ _ =>
        simp only [after, Access.after, Operation.after, addController, addActuator, addSensor]
        split <;> rfl
      | removeController _ | removeActuator _ | removeSensor _ =>
        simp only [after, Access.after, Operation.after, removeController, removeActuator,
          removeSensor]
        split <;> rfl
    | _ => rfl

/-- **Only cycles are counted**, and all of them. -/
theorem cycles_foldl_after [Storage τ] (history : List (Use ρ δ σ τ))
    (s : Aquarium ρ δ σ × ConfigStore τ) :
    (history.foldl (fun s x => x.after s) s).1.cycles =
      s.1.cycles + .ofNat (history.countP Use.isCycle) := by
  induction history generalizing s with
  | nil => exact (UInt64.add_zero _).symm
  | cons x rest ih =>
    rw [List.foldl_cons, ih, x.cycles_after, List.countP_cons]
    cases x.isCycle
    · rfl
    · rw [if_pos rfl, if_pos rfl, UInt64.ofNat_add, UInt64.add_assoc,
        UInt64.add_comm (.ofNat (rest.countP Use.isCycle))]
      rfl

/-! ## The cycle -/

/-- The first half of a cycle: a round of the sensors. -/
structure Measured (a : Aquarium ρ δ σ) (cycle : Outcome (Aquarium ρ δ σ) CycleReport)
    (reads : List (Visit (SensorSlot σ) Survey)) (survey : Survey) : Prop where
  tour : Tour Survey.take a.sensors ⟨a.readings, 0, [], []⟩ reads cycle.state.sensors survey
  /-- Each is read once: its driver is left as the read leaves it, and everything else as it was. -/
  once : ∀ v ∈ reads, v.left = { v.found with device := (Sensor.read v.found.device).2 }
  table : cycle.state.readings = survey.readings
  /-- Exactly those are listed whose read failed. -/
  failures : cycle.answer.failures = reads.filterMap Sensors.failure?
  /-- Nothing is lost in a list with no more room than the registry has places. -/
  room : (reads.filterMap Sensors.failure?).foldl (keep sensorCapacity) [] = cycle.answer.failures
  account : cycle.answer.sensorsRead + cycle.answer.failures.length = a.sensors.size

/-- The second half of a cycle: the loop that advances the cursor of the controllers, from the first
place and with the table that the first half has left. -/
structure Governed (a : Aquarium ρ δ σ) (uptime : UInt64) (time : Option TimeOfDay)
    (cycle : Outcome (Aquarium ρ δ σ) CycleReport) (start : Plant δ × RunCounts)
    (runs : List (Visit (ControllerSlot ρ) (Plant δ × RunCounts)))
    (last : Plant δ × RunCounts) : Prop where
  driven : a.controllers.rewind.drive (runRule cycle.state.readings uptime time) start =
    ⟨runs, cycle.state.controllers, last⟩
  tour : Tour (runRule cycle.state.readings uptime time) a.controllers start runs
    cycle.state.controllers last
  /-- Each is run once, on the same table and at the same time. -/
  once : ∀ v ∈ runs,
    v.left = { v.found with rule := (performance cycle.state.readings uptime time v).1.2 } ∧
      v.after.1 = (performance cycle.state.readings uptime time v).2
  plant : last.1 = ⟨cycle.state.actuators, cycle.answer.switches, cycle.journal⟩
  /-- Each is counted for what became of it. -/
  counts : ∀ status, (runs.map fun v =>
      (performance cycle.state.readings uptime time v).1.1).count status =
    cycle.answer.ended status
  account : cycle.answer.run + cycle.answer.skipped + cycle.answer.latched = a.controllers.size

theorem measured_runCycle (a : Aquarium ρ δ σ) (uptime : UInt64) (time : Option TimeOfDay) :
    a.Measured (a.runCycle uptime time)
      (visits Survey.take (Registry.entries a.sensors) ⟨a.readings, 0, [], []⟩)
      (a.sensors.survey a.readings).2 := by
  have htour : Tour Survey.take a.sensors ⟨a.readings, 0, [], []⟩
      (visits Survey.take (Registry.entries a.sensors) ⟨a.readings, 0, [], []⟩)
      (a.runCycle uptime time).state.sensors (a.sensors.survey a.readings).2 :=
    tour_mapAccum _ a.sensors _
  have hfailures : (a.runCycle uptime time).answer.failures =
      (visits Survey.take (Registry.entries a.sensors)
        ⟨a.readings, 0, [], []⟩).filterMap Sensors.failure? :=
    (a.sensors.failures_survey a.readings).trans (a.sensors.failing_eq_filterMap_visits _)
  refine ⟨htour, fun v hv => ?_, rfl, hfailures, ?_, a.sensors.account_survey a.readings⟩
  · exact (Prod.mk.inj (htour.work v hv)).1.trans (Sensors.take_fst ..)
  · rw [← hfailures]
    refine (foldl_keep _ _ ?_).trans (List.nil_append _)
    rw [List.length_nil, Nat.zero_add]
    exact a.sensors.length_failures_le a.readings

theorem governed_runCycle (a : Aquarium ρ δ σ) (uptime : UInt64) (time : Option TimeOfDay) :
    let start := (⟨a.actuators, [], (a.sensors.survey a.readings).2.journal⟩, ⟨0, 0, 0⟩)
    let f := runRule (a.runCycle uptime time).state.readings uptime time
    a.Governed uptime time (a.runCycle uptime time) start
      (visits f (Registry.entries a.controllers) start) (a.controllers.mapAccum f start).2 := by
  intro start f
  have htour := tour_mapAccum f a.controllers start
  have hcounts := counts_visits (a.runCycle uptime time).state.readings uptime time
    (Registry.entries a.controllers) start
  rw [← mapAccum_snd, RunCounts.foldl_add] at hcounts
  have hstatus : ∀ status, ((visits f (Registry.entries a.controllers) start).map fun v =>
      (performance (a.runCycle uptime time).state.readings uptime time v).1.1).count status =
    (a.runCycle uptime time).answer.ended status := by
    intro status
    cases status
    · exact ((congrArg RunCounts.run hcounts).trans (Nat.zero_add _)).symm
    · exact ((congrArg RunCounts.skipped hcounts).trans (Nat.zero_add _)).symm
    · exact ((congrArg RunCounts.latched hcounts).trans (Nat.zero_add _)).symm
  -- where the cursor is makes no difference to who is in which place
  refine ⟨a.controllers.drive_rewind start, ⟨htour.ascending, htour.found, htour.left, htour.work,
    htour.relayed⟩, fun v hv => ?_, rfl, hstatus, ?_⟩
  · obtain ⟨hleft, hafter⟩ := Prod.mk.inj (htour.work v hv)
    exact ⟨hleft, congrArg Prod.fst hafter⟩
  · have haccount := RunStatus.count_add ((visits f (Registry.entries a.controllers) start).map
      fun v => (performance (a.runCycle uptime time).state.readings uptime time v).1.1)
    rw [hstatus, hstatus, hstatus, List.length_map, length_visits,
      ← size_eq_length_entries] at haccount
    exact haccount

/-- **A cycle accounts for everyone.**  First there is a round of the sensors, each of which is read
once, in ascending order; it makes the table and the list of failures.  Then the cursor, wherever it
was, is set to the first place and advanced until nobody is left, which makes a round of the
controllers: each is run once, in ascending order, with the table that the sensors have left and
with the uptime and the time of the cycle, on the plant that the one before it has left.  Every
sensor is counted as read or failed and every controller as run, skipped or latched.  The number of
the cycle is one more than the number of cycles before, in 64 bits, so that of any later one is one
more than this and those in between. -/
theorem cycle_accounts_for_everyone [Storage τ] (a : Aquarium ρ δ σ) (uptime : UInt64)
    (time : Option TimeOfDay) :
    let cycle := a.runCycle uptime time
    (∃ reads survey runs last,
      a.Measured cycle reads survey ∧
        a.Governed uptime time cycle (⟨a.actuators, [], survey.journal⟩, ⟨0, 0, 0⟩) runs last) ∧
      cycle.answer.cycle = a.cycles + 1 ∧
      ((a.cycles : Nat) + 1 < UInt64.size → (cycle.answer.cycle : Nat) = a.cycles + 1) ∧
      ∀ (store : ConfigStore τ) (history : List (Use ρ δ σ τ)) (uptime' : UInt64)
        (time' : Option TimeOfDay),
        ((history.foldl (fun s x => x.after s) (cycle.state, store)).1.runCycle
            uptime' time').answer.cycle =
          cycle.answer.cycle + UInt64.ofNat (history.countP Use.isCycle) + 1 := by
  intro cycle
  have hnumber : cycle.answer.cycle = a.cycles + 1 := rfl
  refine ⟨⟨_, _, _, _, a.measured_runCycle uptime time, a.governed_runCycle uptime time⟩, hnumber,
    fun hroom => ?_,
    fun store history _ _ => congrArg (· + 1) (cycles_foldl_after history (cycle.state, store))⟩
  rw [hnumber, UInt64.toNat_add]
  exact Nat.mod_eq_of_lt hroom

/-- A probe that counts how often it is read, and answers only every other time. -/
structure Moody where
  reads : Nat
deriving DecidableEq

instance : Sensor Moody where
  kind := fun _ => .custom
  read := fun p => (if p.reads % 2 = 0 then .ok .one else .error .probeNoResponse, ⟨p.reads + 1⟩)

/-- Of three controllers the second one is gone, and the cursor has just met the first.  Of two
probes the second one is about to fail. -/
def halfway : Aquarium Script Relay Moody :=
  let crew := ((((empty.addController "first" Script.default).state.addController "second"
    Script.default).state.addController "third" { Script.default with status := .skipped }).state)
  let manned := ((crew.removeController (.ofNat 1)).state.addSensor "good" ⟨0⟩).state
  let whole := (manned.addSensor "bad" ⟨3⟩).state
  { whole with controllers := whole.controllers.next.2 }

/-- The cycle that finds the cursor halfway meets both controllers all the same, and both probes
once. -/
theorem halfway_cycle_meets_everyone :
    halfway.controllers.cursor = 1 ∧
      let cycle := halfway.runCycle 1000 none
      (∃ runs : List (Visit (ControllerSlot Script) (Plant Relay × RunCounts)),
        runs.map Visit.place = [.ofNat 0, .ofNat 2] ∧
          ∀ status, (runs.map fun v =>
            (performance cycle.state.readings 1000 none v).1.1).count status =
              cycle.answer.ended status) ∧
        (∀ id s, cycle.state.sensors.get? id = some s →
          ∃ before, halfway.sensors.get? id = some before ∧
            s.device.reads = before.device.reads + 1) ∧
        cycle.answer.failures = [(.ofNat 1, .probeNoResponse)] ∧
        cycle.answer.sensorsRead = 1 ∧
        cycle.answer.run + cycle.answer.skipped + cycle.answer.latched = 2 ∧
        (cycle.answer.cycle : Nat) = 1 := by
  refine ⟨by decide, ?_⟩
  intro cycle
  obtain ⟨⟨reads, survey, runs, last, hmeasured, hgoverned⟩, -, hnumber, -⟩ :=
    cycle_accounts_for_everyone (τ := Memory) halfway 1000 none
  have hfailures : cycle.answer.failures = [(.ofNat 1, .probeNoResponse)] := by decide +kernel
  refine ⟨⟨runs, ?_, hgoverned.counts⟩, fun id s hs => ?_, hfailures, ?_,
    hgoverned.account.trans (by decide +kernel), hnumber (by decide)⟩
  · have hruns : runs = visits _ halfway.controllers.entries _ :=
      congrArg Round.visits (hgoverned.driven.symm.trans (drive_rewind _ _))
    have hplaces := congrArg (List.map Prod.fst) (map_found_visits
      (runRule cycle.state.readings 1000 none) halfway.controllers.entries
      (⟨halfway.actuators, [], survey.journal⟩, ⟨0, 0, 0⟩))
    rw [← hruns, List.map_map] at hplaces
    exact hplaces.trans (by decide +kernel)
  · obtain ⟨v, hv, rfl, rfl⟩ := (hmeasured.tour.left id s).mp hs
    refine ⟨v.found, (hmeasured.tour.found _ _).mpr ⟨v, hv, rfl, rfl⟩, ?_⟩
    rw [hmeasured.once v hv]
    rfl
  · have haccount := hmeasured.account
    rw [hfailures] at haccount
    exact Nat.add_right_cancel (haccount.trans (by decide +kernel : _ = 1 + 1))

end Aquarium

end AquariumControl
