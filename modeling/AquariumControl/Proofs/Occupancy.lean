import AquariumControl.Proofs.Registry

/-!
# Who is in which place

A registry is called in any order: occupants move in and out, are changed in place, and are passed
by the cursor.  Every call is a step, which is the call with its answer, and what a place holds in
the end can be read off the steps alone.

* `Registry.Call`, `Registry.Step` — a call, and what came of it.
* `Registry.log` and `Registry.after` — the steps of some calls, and the registry they leave.
* `Registry.get?_after` — what a place holds is what the steps leave there.
* `Registry.answer_removed` — an occupant that is handed out is the one that was there.
* `Registry.occupant_keeps_its_place` — from its arrival until its departure, an occupant is found
  in the place it was given, and nobody else is.
-/

set_option autoImplicit false

namespace AquariumControl

namespace Registry

universe u

variable {α : Type u} {capacity : Nat}

/-! ## The lowest free place -/

/-- Place `i` is free and no lower one is. -/
def LowestFree (r : Registry α capacity) (i : Nat) : Prop :=
  i < capacity ∧ r.contains (.ofNat i) = false ∧ ∀ k < i, r.contains (.ofNat k) = true

theorem contains_ofNat (r : Registry α capacity) {i : Nat} (hi : i < r.slots.length) :
    r.contains (.ofNat i) = r.slots[i].isSome := by
  rw [contains, r.get?_ofNat_eq hi]

/-- An addition fills the lowest free place. -/
theorem eq_of_add {r r' : Registry α capacity} {a : α} {id : SlotId}
    (h : r.add a = some (id, r')) :
    ∃ i, r.LowestFree i ∧ id = .ofNat i ∧ r' = r.setSlot i (some a) := by
  obtain ⟨i, hfree, hi⟩ := Option.map_eq_some_iff.mp h
  obtain ⟨hlt, hnone, hlower⟩ := List.findIdx?_eq_some_iff_getElem.mp hfree
  obtain ⟨rfl, rfl⟩ := Prod.mk.inj hi
  refine ⟨i, ⟨r.length_slots ▸ hlt, ?_, fun k hk => ?_⟩, rfl, rfl⟩
  · rw [contains_ofNat r hlt]
    simpa using hnone
  · rw [contains_ofNat r (Nat.lt_trans hk hlt)]
    simpa [Option.isSome_iff_ne_none] using hlower k hk

/-- An addition is refused exactly if there is no free place. -/
theorem add_eq_none_iff (r : Registry α capacity) (a : α) :
    r.add a = none ↔ ∀ i < capacity, r.contains (.ofNat i) = true := by
  rw [add, addWith, Option.map_eq_none_iff, firstFree?, List.findIdx?_eq_none_iff]
  constructor
  · intro h i hi
    have hlt : i < r.slots.length := r.length_slots.symm ▸ hi
    rw [contains_ofNat r hlt]
    simpa using h _ (List.getElem_mem hlt)
  · intro h o ho
    obtain ⟨i, hlt, rfl⟩ := List.mem_iff_getElem.mp ho
    have hfull := h i (r.length_slots ▸ hlt)
    rw [contains_ofNat r hlt] at hfull
    simpa using hfull

/-! ## Removals -/

/-- A removal hands out whoever is there and frees the place. -/
theorem eq_of_remove {r r' : Registry α capacity} {a : α} {id : SlotId}
    (h : r.remove id = some (a, r')) :
    ∃ i < capacity, id = .ofNat i ∧ r.get? id = some a ∧ r' = r.setSlot i none := by
  cases id with
  | unassigned => cases h
  | slot i =>
    cases hget : r.get? (.slot i) with
    | none => simp [remove, hget] at h
    | some b =>
      simp only [remove, hget, Option.some.injEq, Prod.mk.injEq] at h
      obtain ⟨rfl, rfl⟩ := h
      exact ⟨i.val, lt_capacity_of_get? hget, (SlotId.ofNat_val i).symm, rfl, rfl⟩

theorem remove_eq_none_iff (r : Registry α capacity) (id : SlotId) :
    r.remove id = none ↔ r.get? id = none := by
  cases id with
  | unassigned => exact iff_of_true rfl rfl
  | slot i => cases hget : r.get? (.slot i) <;> simp [remove, hget]

/-! ## The number of occupants -/

theorem size_setSlot (r : Registry α capacity) {i : Nat} (hi : i < capacity) (o : Option α) :
    (r.setSlot i o).size + (if r.contains (.ofNat i) then 1 else 0) =
      r.size + if o.isSome then 1 else 0 := by
  have hlt : i < r.slots.length := r.length_slots.symm ▸ hi
  have hcount := List.boole_getElem_le_countP (p := Option.isSome) (l := r.slots) hlt
  simp only [size, setSlot, List.countP_set hlt, contains_ofNat r hlt]
  omega

theorem size_add {r r' : Registry α capacity} {a : α} {id : SlotId}
    (h : r.add a = some (id, r')) : r'.size = r.size + 1 := by
  obtain ⟨i, ⟨hi, hfree, -⟩, -, rfl⟩ := eq_of_add h
  simpa [hfree] using r.size_setSlot hi (some a)

theorem size_remove {r r' : Registry α capacity} {a : α} {id : SlotId}
    (h : r.remove id = some (a, r')) : r'.size + 1 = r.size := by
  obtain ⟨i, hi, rfl, hget, rfl⟩ := eq_of_remove h
  simpa [contains, hget] using r.size_setSlot hi none

theorem size_modify (r : Registry α capacity) (id : SlotId) (f : α → α) :
    (r.modify id f).size = r.size := by
  cases id with
  | unassigned => rfl
  | slot i =>
    cases hget : r.get? (.slot i) with
    | none => simp only [modify, hget]
    | some a =>
      have hsize := r.size_setSlot (lt_capacity_of_get? hget) (some (f a))
      simpa [modify, contains, hget] using hsize

/-! ## Steps -/

/-- A call, with what the caller does to an occupant that is handed out in place. -/
inductive Call (α : Type u)
  | add (a : α)
  | remove (id : SlotId)
  | change (id : SlotId) (f : α → α)
  | next (f : α → α)
  | rewind

/-- What came of a call: somebody was added or refused, somebody or nobody was removed, the occupant
of a place, if there was one, was changed, or only the cursor moved. -/
inductive Step (α : Type u)
  | added (a : α) (answer : Option SlotId)
  | removed (id : SlotId) (answer : Option α)
  | changed (id : SlotId) (f : α → α)
  | moved

namespace Step

/-- What place `id` holds after a step.  An arrival displaces nobody. -/
def leaves (id : SlotId) : Step α → Option α → Option α
  | added a (some j), o => if j = id then o.or (some a) else o
  | removed j _, o => if j = id then none else o
  | changed j f, o => if j = id then o.map f else o
  | _, o => o

/-- What a step does in place to the occupant of `id`. -/
def edit (id : SlotId) : Step α → α → α
  | changed j f, a => if j = id then f a else a
  | _, a => a

/-- The places that are taken, in the order of arrival. -/
def tenants : Step α → List SlotId → List SlotId
  | added _ (some id), out => id :: out
  | removed id (some _), out => out.erase id
  | _, out => out

def isArrival : Step α → Bool
  | added _ (some _) => true
  | _ => false

def isDeparture : Step α → Bool
  | removed _ (some _) => true
  | _ => false

/-- As long as nobody is removed from a place, its occupant stays. -/
theorem leaves_some {e : Step α} {id : SlotId} (h : ∀ o, e ≠ removed id o) (a : α) :
    e.leaves id (some a) = some (e.edit id a) := by
  cases e with
  | added b answer =>
    cases answer with
    | none => rfl
    | some j => simp [leaves, edit]
  | removed j o =>
    have hne : j ≠ id := fun hj => h o (hj ▸ rfl)
    simp [leaves, edit, hne]
  | changed j f =>
    simp only [leaves, edit]
    split <;> rfl
  | moved => rfl

/-- As long as nobody is added to a place, it stays free. -/
theorem leaves_none {e : Step α} {id : SlotId} (h : ∀ a, e ≠ added a (some id)) :
    e.leaves id none = none := by
  cases e with
  | added b answer =>
    cases answer with
    | none => rfl
    | some j =>
      have hne : j ≠ id := fun hj => h b (hj ▸ rfl)
      simp [leaves, hne]
  | removed j o => simp [leaves]
  | changed j f => simp [leaves]
  | moved => rfl

end Step

/-- What happened in place to the occupant of `id`. -/
def edits (id : SlotId) (log : List (Step α)) (a : α) : α :=
  log.foldl (fun a e => e.edit id a) a

/-- What place `id` holds after some steps. -/
def leftAt (id : SlotId) (log : List (Step α)) (o : Option α) : Option α :=
  log.foldl (fun o e => e.leaves id o) o

/-- The places that are taken after some steps. -/
def outstanding (log : List (Step α)) : List SlotId :=
  log.foldl (fun out e => e.tenants out) []

theorem leftAt_cons (id : SlotId) (e : Step α) (log : List (Step α)) (o : Option α) :
    leftAt id (e :: log) o = leftAt id log (e.leaves id o) := rfl

theorem leftAt_append (id : SlotId) (log log' : List (Step α)) (o : Option α) :
    leftAt id (log ++ log') o = leftAt id log' (leftAt id log o) :=
  List.foldl_append

theorem leftAt_of_kept {log : List (Step α)} {id : SlotId} (h : ∀ o, .removed id o ∉ log)
    (a : α) : leftAt id log (some a) = some (edits id log a) := by
  induction log generalizing a with
  | nil => rfl
  | cons e rest ih =>
    have hfirst : e.leaves id (some a) = some (e.edit id a) :=
      e.leaves_some (fun o he => h o (he ▸ List.mem_cons_self)) a
    rw [leftAt_cons, hfirst, ih fun o ho => h o (List.mem_cons_of_mem e ho)]
    rfl

theorem leftAt_of_free {log : List (Step α)} {id : SlotId} (h : ∀ a, .added a (some id) ∉ log) :
    leftAt id log none = none := by
  induction log with
  | nil => rfl
  | cons e rest ih =>
    have hfirst : e.leaves id none = none :=
      e.leaves_none fun a he => h a (he ▸ List.mem_cons_self)
    rw [leftAt_cons, hfirst, ih fun a ha => h a (List.mem_cons_of_mem e ha)]

/-- After somebody was removed, or nobody was there, a place is free until it is given out. -/
theorem leftAt_of_removed {front late : List (Step α)} {id : SlotId} {answer : Option α}
    (h : ∀ a, .added a (some id) ∉ late) (o : Option α) :
    leftAt id (front ++ .removed id answer :: late) o = none := by
  rw [leftAt_append, leftAt_cons]
  simp only [Step.leaves, if_true]
  exact leftAt_of_free h

/-! ## One call -/

/-- Makes a call. -/
def perform (r : Registry α capacity) : Call α → Step α × Registry α capacity
  | .add a =>
    match r.add a with
    | none => (.added a none, r)
    | some (id, r') => (.added a (some id), r')
  | .remove id =>
    match r.remove id with
    | none => (.removed id none, r)
    | some (a, r') => (.removed id (some a), r')
  | .change id f => (.changed id f, r.modify id f)
  | .next f =>
    match r.next with
    | (none, r') => (.moved, r')
    | (some (id, _), r') => (.changed id f, r'.modify id f)
  | .rewind => (.moved, r.rewind)

/-- What a call can come to, and what it leaves.  Only the cursor is lost from view. -/
inductive Happens (r : Registry α capacity) : Step α → Registry α capacity → Prop
  | refused {a : α} : r.add a = none → Happens r (.added a none) r
  | added {a : α} {id : SlotId} {r' : Registry α capacity} :
    r.add a = some (id, r') → Happens r (.added a (some id)) r'
  | missing {id : SlotId} : r.remove id = none → Happens r (.removed id none) r
  | removed {id : SlotId} {a : α} {r' : Registry α capacity} :
    r.remove id = some (a, r') → Happens r (.removed id (some a)) r'
  | changed (cursor : Nat) (id : SlotId) (f : α → α) :
    Happens r (.changed id f) ({ r with cursor := cursor }.modify id f)
  | moved (cursor : Nat) : Happens r .moved { r with cursor := cursor }

theorem next_cases (r : Registry α capacity) :
    ∃ found cursor, r.next = (found, { r with cursor := cursor }) := by
  rw [next]
  split
  · exact ⟨_, _, rfl⟩
  · exact ⟨_, _, rfl⟩

theorem happens_perform (r : Registry α capacity) (c : Call α) :
    r.Happens (r.perform c).1 (r.perform c).2 := by
  cases c with
  | add a =>
    simp only [perform]
    cases hadd : r.add a with
    | none => exact .refused hadd
    | some p => exact .added hadd
  | remove id =>
    simp only [perform]
    cases hremove : r.remove id with
    | none => exact .missing hremove
    | some p => exact .removed hremove
  | change id f => exact .changed r.cursor id f
  | next f =>
    obtain ⟨found, cursor, hnext⟩ := r.next_cases
    simp only [perform, hnext]
    cases found with
    | none => exact .moved cursor
    | some p => exact .changed cursor p.1 f
  | rewind => exact .moved 0

namespace Happens

variable {r r' : Registry α capacity} {e : Step α}

/-- **One call, seen from one place.** -/
theorem get? (h : r.Happens e r') (id : SlotId) : r'.get? id = e.leaves id (r.get? id) := by
  cases h with
  | refused => rfl
  | added hadd =>
    rename_i a j
    have hfree : r.get? j = none := free_of_addWith hadd
    simp only [Step.leaves, get?_addWith hadd, eq_comm (a := id)]
    split
    · next hj => rw [← hj, hfree, Option.none_or]
    · rfl
  | missing hremove =>
    rename_i j
    have hnone : r.get? j = none := (r.remove_eq_none_iff j).mp hremove
    simp only [Step.leaves]
    split
    · next hj => rw [← hj, hnone]
    · rfl
  | removed hremove => simp only [Step.leaves, get?_remove hremove, eq_comm (a := id)]
  | changed cursor j f =>
    simp only [Step.leaves, get?_modify, eq_comm (a := id)]
    split
    · next hj => rw [hj]; rfl
    · rfl
  | moved cursor => rfl

/-- Whoever is added gets a free place. -/
theorem free {a : α} {id : SlotId} (h : r.Happens (.added a (some id)) r') : r.get? id = none := by
  cases h with
  | added hadd => exact free_of_addWith hadd

/-- Whoever is handed out was there. -/
theorem answer {id : SlotId} {o : Option α} (h : r.Happens (.removed id o) r') :
    o = r.get? id := by
  cases h with
  | missing hremove => exact ((r.remove_eq_none_iff id).mp hremove).symm
  | removed hremove =>
    obtain ⟨i, -, -, hget, -⟩ := eq_of_remove hremove
    exact hget.symm

/-- **One call, by the number of occupants.** -/
theorem size (h : r.Happens e r') :
    r'.size + (if e.isDeparture then 1 else 0) = r.size + if e.isArrival then 1 else 0 := by
  cases h with
  | refused => rfl
  | added hadd => exact size_add hadd
  | missing => rfl
  | removed hremove => exact size_remove hremove
  | changed cursor j f => exact size_modify _ j f
  | moved cursor => rfl

/-- **One call, by the places that are taken.** -/
theorem tenants (h : r.Happens e r') {out : List SlotId} (hnodup : out.Nodup)
    (hmem : ∀ id, id ∈ out ↔ r.contains id = true) :
    (e.tenants out).Nodup ∧ ∀ id, id ∈ e.tenants out ↔ r'.contains id = true := by
  cases h with
  | refused => exact ⟨hnodup, hmem⟩
  | added hadd =>
    rename_i a j
    have hfree : r.get? j = none := free_of_addWith hadd
    refine ⟨List.nodup_cons.mpr ⟨?_, hnodup⟩, fun id => ?_⟩
    · rw [hmem, contains, hfree]
      exact Bool.false_ne_true
    · simp only [Step.tenants, List.mem_cons, hmem, contains, get?_addWith hadd]
      split
      · next hj => simp [hj]
      · next hj => simp [hj]
  | missing => exact ⟨hnodup, hmem⟩
  | removed hremove =>
    refine ⟨hnodup.erase _, fun id => ?_⟩
    simp only [Step.tenants, hnodup.mem_erase_iff, hmem, contains, get?_remove hremove]
    split
    · next hj => simp [hj]
    · next hj => simp [hj]
  | changed cursor j f =>
    refine ⟨hnodup, fun id => ?_⟩
    rw [contains_modify]
    exact hmem id
  | moved cursor => exact ⟨hnodup, hmem⟩

end Happens

/-! ## All calls -/

/-- The registry after some calls. -/
def after (r : Registry α capacity) (calls : List (Call α)) : Registry α capacity :=
  calls.foldl (fun r c => (r.perform c).2) r

/-- The steps of some calls. -/
def log (r : Registry α capacity) : List (Call α) → List (Step α)
  | [] => []
  | c :: rest => (r.perform c).1 :: (r.perform c).2.log rest

/-- **What a place holds is what the steps leave there.** -/
theorem get?_after (r : Registry α capacity) (calls : List (Call α)) (id : SlotId) :
    (r.after calls).get? id = leftAt id (r.log calls) (r.get? id) := by
  induction calls generalizing r with
  | nil => rfl
  | cons c rest ih =>
    rw [log, leftAt_cons, ← (r.happens_perform c).get?]
    exact ih _

theorem size_after (r : Registry α capacity) (calls : List (Call α)) :
    (r.after calls).size + (r.log calls).countP Step.isDeparture =
      r.size + (r.log calls).countP Step.isArrival := by
  induction calls generalizing r with
  | nil => rfl
  | cons c rest ih =>
    have hcall := (r.happens_perform c).size
    have hrest := ih (r.perform c).2
    simp only [log, List.countP_cons]
    rw [show r.after (c :: rest) = (r.perform c).2.after rest from rfl]
    omega

/-- A step in the middle of a log is that of a call made after the calls before it. -/
theorem exists_of_log_eq {r : Registry α capacity} {calls : List (Call α)}
    {front back : List (Step α)} {e : Step α} (h : r.log calls = front ++ e :: back) :
    ∃ first c, r.log first = front ∧ ((r.after first).perform c).1 = e := by
  induction front generalizing r calls with
  | nil =>
    cases calls with
    | nil => cases h
    | cons c rest => exact ⟨[], c, rfl, (List.cons.inj h).1⟩
  | cons d front ih =>
    cases calls with
    | nil => cases h
    | cons c rest =>
      obtain ⟨hd, hrest⟩ := List.cons.inj h
      obtain ⟨first, c', hfirst, hc'⟩ := ih hrest
      exact ⟨c :: first, c', by rw [log, hd, hfirst], hc'⟩

/-- A place that is given out was free. -/
theorem free_added {r : Registry α capacity} {calls : List (Call α)} {front back : List (Step α)}
    {a : α} {id : SlotId} (h : r.log calls = front ++ .added a (some id) :: back) :
    leftAt id front (r.get? id) = none := by
  obtain ⟨first, c, hfirst, hc⟩ := exists_of_log_eq h
  rw [← hfirst, ← get?_after]
  exact (hc ▸ (r.after first).happens_perform c).free

/-- **An occupant that is handed out is the one that was there.** -/
theorem answer_removed {r : Registry α capacity} {calls : List (Call α)}
    {front back : List (Step α)} {id : SlotId} {o : Option α}
    (h : r.log calls = front ++ .removed id o :: back) : o = leftAt id front (r.get? id) := by
  obtain ⟨first, c, hfirst, hc⟩ := exists_of_log_eq h
  rw [← hfirst, ← get?_after]
  exact (hc ▸ (r.after first).happens_perform c).answer

/-- From its arrival on an occupant stays, as long as nobody is removed from its place. -/
theorem leftAt_of_added {r : Registry α capacity} {calls : List (Call α)}
    {before during back : List (Step α)} {a : α} {id : SlotId}
    (h : r.log calls = before ++ .added a (some id) :: (during ++ back))
    (hkept : ∀ o, .removed id o ∉ during) :
    leftAt id (before ++ .added a (some id) :: during) (r.get? id) =
      some (edits id during a) := by
  have harrives : (Step.added a (some id)).leaves id none = some a := by simp [Step.leaves]
  rw [leftAt_append, free_added h, leftAt_cons, harrives, leftAt_of_kept hkept]

/-- **No place is taken twice**, and those that are taken are those that are occupied. -/
theorem tenants_after {r : Registry α capacity} {out : List SlotId} (hnodup : out.Nodup)
    (hmem : ∀ id, id ∈ out ↔ r.contains id = true) (calls : List (Call α)) :
    ((r.log calls).foldl (fun out e => e.tenants out) out).Nodup ∧
      ∀ id, id ∈ (r.log calls).foldl (fun out e => e.tenants out) out ↔
        (r.after calls).contains id = true := by
  induction calls generalizing r out with
  | nil => exact ⟨hnodup, hmem⟩
  | cons c rest ih =>
    obtain ⟨hnodup', hmem'⟩ := (r.happens_perform c).tenants hnodup hmem
    exact ih hnodup' hmem'

theorem exists_of_contains {r : Registry α capacity} {id : SlotId} (h : r.contains id = true) :
    id ≠ .unassigned ∧ ∃ i < capacity, id = .ofNat i := by
  obtain ⟨a, ha⟩ := Option.isSome_iff_exists.mp h
  cases id with
  | unassigned => cases ha
  | slot i => exact ⟨SlotId.noConfusion, i.val, lt_capacity_of_get? ha, (SlotId.ofNat_val i).symm⟩

/-- **An occupant keeps its place.**  However a registry came to be what it is: an addition takes
the lowest free place, or is refused and changes nothing, and it is refused exactly if every place
is occupied.  From the addition that gave out a place until somebody is removed from there, that
very occupant is found in it, with what was changed in place since; the removal hands it out, and
until the place is given out again there is nobody there and nobody more to remove.  The places that
are taken at one time are different ones, all of the registry, and the number of occupants is that
of the additions that were not refused less that of the removals that handed somebody out. -/
theorem occupant_keeps_its_place (h : capacity ≤ 127) (calls : List (Call α)) :
    let r := (empty h : Registry α capacity).after calls
    let log := (empty h : Registry α capacity).log calls
    (∀ a, (r.add a = none ↔ ∀ i < capacity, r.contains (.ofNat i) = true) ∧
      (r.add a = none → r.perform (.add a) = (.added a none, r)) ∧
      ∀ id r', r.add a = some (id, r') → ∃ i, r.LowestFree i ∧ id = .ofNat i) ∧
    (∀ before a id during, log = before ++ .added a (some id) :: during →
      (∀ o, .removed id o ∉ during) → r.get? id = some (edits id during a)) ∧
    (∀ before a id during answer rest,
      log = before ++ .added a (some id) :: (during ++ .removed id answer :: rest) →
      (∀ o, .removed id o ∉ during) →
      answer = some (edits id during a) ∧
        ((∀ b, .added b (some id) ∉ rest) →
          r.get? id = none ∧ ∀ o, .removed id o ∈ rest → o = none)) ∧
    (outstanding log).Nodup ∧
    (∀ id, id ∈ outstanding log ↔ r.contains id = true) ∧
    (∀ id ∈ outstanding log, id ≠ .unassigned ∧ ∃ i < capacity, id = .ofNat i) ∧
    r.size + log.countP Step.isDeparture = log.countP Step.isArrival := by
  intro r log
  have htenants := tenants_after (r := (empty h : Registry α capacity)) List.nodup_nil
    (by simp [contains]) calls
  refine ⟨fun a => ⟨r.add_eq_none_iff a, fun hfull => ?_, fun id r' hadd => ?_⟩,
    fun before a id during hlog hkept => ?_, fun before a id during answer rest hlog hkept => ?_,
    htenants.1, htenants.2, fun id hid => exists_of_contains ((htenants.2 id).mp hid), ?_⟩
  · simp only [perform, hfull]
  · obtain ⟨i, hlowest, hid, -⟩ := eq_of_add hadd
    exact ⟨i, hlowest, hid⟩
  · have hend : log = before ++ .added a (some id) :: (during ++ []) := by
      rw [List.append_nil, hlog]
    rw [get?_after, show (empty h).log calls = _ from hlog]
    exact leftAt_of_added hend hkept
  · have hheld := leftAt_of_added hlog hkept
    have hsplit : log = (before ++ .added a (some id) :: during) ++ .removed id answer :: rest := by
      rw [hlog, List.append_assoc, List.cons_append]
    refine ⟨(answer_removed hsplit).trans hheld, fun hgone => ⟨?_, fun o ho => ?_⟩⟩
    · rw [get?_after, show (empty h).log calls = _ from hsplit]
      exact leftAt_of_removed hgone _
    · obtain ⟨late, later, rfl⟩ := List.append_of_mem ho
      have hlater : log = (before ++ .added a (some id) :: during ++ .removed id answer :: late) ++
          .removed id o :: later := by
        simpa using hsplit
      exact (answer_removed hlater).trans
        (leftAt_of_removed (fun b hb => hgone b (List.mem_append_left _ hb)) _)
  · have hsize := size_after (empty h : Registry α capacity) calls
    have hnobody : (empty h : Registry α capacity).size = 0 := by
      simp [size, empty, List.countP_replicate]
    rwa [hnobody, Nat.zero_add] at hsize

/-- Calls of a registry of two places, of which one is freed. -/
def tenancy : List (Call Nat) :=
  [.add 5, .add 7, .next (· + 1), .add 9, .remove (.ofNat 0), .remove (.ofNat 0),
    .change (.ofNat 1) (· + 10)]

/-- The third addition is refused, the first occupant is handed out once and with what was done to
it, and the second one is found where it was put. -/
theorem freed_place_keeps_nobody :
    2 ≤ 127 ∧
      (empty (by decide) : Registry Nat 2).log tenancy =
        [.added 5 (some (.ofNat 0)), .added 7 (some (.ofNat 1)), .changed (.ofNat 0) (· + 1),
          .added 9 none, .removed (.ofNat 0) (some 6), .removed (.ofNat 0) none,
          .changed (.ofNat 1) (· + 10)] ∧
      ((empty (by decide) : Registry Nat 2).after tenancy).get? (.ofNat 0) = none ∧
      ((empty (by decide) : Registry Nat 2).after tenancy).get? (.ofNat 1) = some 17 ∧
      ((empty (by decide) : Registry Nat 2).after tenancy).size + 1 = 2 := by
  obtain ⟨-, hstays, hleaves, -, -, -, hsize⟩ :=
    occupant_keeps_its_place (by decide : 2 ≤ 127) tenancy
  refine ⟨by decide, rfl, ?_, ?_, hsize⟩
  · exact ((hleaves [] 5 (.ofNat 0) [.added 7 (some (.ofNat 1)), .changed (.ofNat 0) (· + 1),
      .added 9 none] (some 6) [.removed (.ofNat 0) none, .changed (.ofNat 1) (· + 10)] rfl
      (by simp [SlotId.ofNat])).2 (by simp [SlotId.ofNat])).1
  · exact hstays [.added 5 (some (.ofNat 0))] 7 (.ofNat 1) [.changed (.ofNat 0) (· + 1),
      .added 9 none, .removed (.ofNat 0) (some 6), .removed (.ofNat 0) none,
      .changed (.ofNat 1) (· + 10)] rfl (by simp [SlotId.ofNat])

end Registry

end AquariumControl
