import AquariumControl.SlotId

/-!
# Registries

A registry has a fixed number of places, each empty or holding one occupant.  An occupant keeps
its place for as long as it stays, and nothing is ever moved to close a gap: the number of the
place is the occupant's public name.

* `add` takes the lowest free place, `remove` frees one, `get?` and `modify` work in place.
* `entries` lists the occupants in ascending order of their places, `mapAccum` passes through
  them in that order while a state is carried along.
* `next` and `rewind` are a cursor that can be advanced step by step.

Every operation is described by what it does to `get?`.
-/

set_option autoImplicit false

namespace AquariumControl

universe u v

/-- `capacity` places, each empty or occupied, and the position of the cursor. -/
structure Registry (α : Type u) (capacity : Nat) where
  slots : List (Option α)
  cursor : Nat
  length_slots : slots.length = capacity
  capacity_le : capacity ≤ 127

namespace Registry

variable {α : Type u} {capacity : Nat}

/-- A registry with no occupants. -/
def empty (h : capacity ≤ 127) : Registry α capacity where
  slots := List.replicate capacity none
  cursor := 0
  length_slots := List.length_replicate
  capacity_le := h

/-! ## Looking at one place -/

/-- The occupant of a place; `none` for an empty place, one outside the registry, or no place. -/
def get? (r : Registry α capacity) : SlotId → Option α
  | .unassigned => none
  | .slot i => r.slots[i.val]?.join

def contains (r : Registry α capacity) (id : SlotId) : Bool :=
  (r.get? id).isSome

/-- What a place holds is replaced; used only for indices inside the registry. -/
def setSlot (r : Registry α capacity) (i : Nat) (occupant : Option α) : Registry α capacity :=
  { r with
    slots := r.slots.set i occupant
    length_slots := by rw [List.length_set]; exact r.length_slots }

/-- Changes the occupant of a place, if there is one. -/
def modify (r : Registry α capacity) (id : SlotId) (f : α → α) : Registry α capacity :=
  match id, r.get? id with
  | .slot i, some a => r.setSlot i.val (some (f a))
  | _, _ => r

/-! ## Moving in and out -/

/-- The lowest empty place. -/
def firstFree? (r : Registry α capacity) : Option Nat :=
  r.slots.findIdx? Option.isNone

/-- Fills the lowest free place with what is made for it, or refuses when there is none. -/
def addWith (r : Registry α capacity) (make : SlotId → α) :
    Option (SlotId × Registry α capacity) :=
  r.firstFree?.map fun i =>
    let id := SlotId.ofNat i
    (id, r.setSlot i (some (make id)))

/-- Puts `a` in the lowest free place, or refuses when there is none. -/
def add (r : Registry α capacity) (a : α) : Option (SlotId × Registry α capacity) :=
  r.addWith fun _ => a

/-- Frees a place and hands out what it held. -/
def remove (r : Registry α capacity) (id : SlotId) : Option (α × Registry α capacity) :=
  match id, r.get? id with
  | .slot i, some a => some (a, r.setSlot i.val none)
  | _, _ => none

/-! ## All places -/

/-- Every place with what it holds, in ascending order. -/
def places (r : Registry α capacity) : List (SlotId × Option α) :=
  r.slots.zipIdx.map fun p => (SlotId.ofNat p.2, p.1)

/-- The occupants with their places, in ascending order. -/
def entries (r : Registry α capacity) : List (SlotId × α) :=
  r.places.filterMap fun p => p.2.map fun a => (p.1, a)

/-- The number of occupants. -/
def size (r : Registry α capacity) : Nat :=
  r.slots.countP Option.isSome

def isEmpty (r : Registry α capacity) : Bool :=
  r.slots.all Option.isNone

def isFull (r : Registry α capacity) : Bool :=
  r.slots.all Option.isSome

/-- Changes every occupant. -/
def map (r : Registry α capacity) (f : α → α) : Registry α capacity :=
  { r with
    slots := r.slots.map (Option.map f)
    length_slots := by rw [List.length_map]; exact r.length_slots }

/-- Passes through the places from number `i` on, changing each occupant while `s` is carried
along. -/
def sweep {β : Type u} {σ : Type v} (f : σ → SlotId → α → β × σ) :
    Nat → List (Option α) → σ → List (Option β) × σ
  | _, [], s => ([], s)
  | i, none :: rest, s =>
    let (rest', s') := sweep f (i + 1) rest s
    (none :: rest', s')
  | i, some a :: rest, s =>
    let (a', s') := f s (SlotId.ofNat i) a
    let (rest', s'') := sweep f (i + 1) rest s'
    (some a' :: rest', s'')

theorem length_sweep {β : Type u} {σ : Type v} (f : σ → SlotId → α → β × σ) (i : Nat)
    (slots : List (Option α)) (s : σ) : (sweep f i slots s).1.length = slots.length := by
  induction slots generalizing i s with
  | nil => rfl
  | cons o rest ih => cases o <;> simp [sweep, ih]

/-- Visits every occupant once, in ascending order, with a state carried from one visit to the
next. -/
def mapAccum {σ : Type v} (r : Registry α capacity) (f : σ → SlotId → α → α × σ) (s : σ) :
    Registry α capacity × σ :=
  let swept := sweep f 0 r.slots s
  ({ r with
      slots := swept.1
      length_slots := by rw [length_sweep]; exact r.length_slots }, swept.2)

/-! ## The cursor -/

/-- Moves the cursor back to the first place. -/
def rewind (r : Registry α capacity) : Registry α capacity :=
  { r with cursor := 0 }

/-- Moves the cursor past the last place. -/
def exhaust (r : Registry α capacity) : Registry α capacity :=
  { r with cursor := capacity }

/-- The next occupant at or after the cursor, which moves past it.  Once there is none the
cursor stays at the end until `rewind`. -/
def next (r : Registry α capacity) : Option (SlotId × α) × Registry α capacity :=
  match (r.slots.drop r.cursor).findIdx? Option.isSome with
  | none => (none, r.exhaust)
  | some k =>
    let id := SlotId.ofNat (r.cursor + k)
    ((r.get? id).map (id, ·), { r with cursor := r.cursor + k + 1 })

/-! ## Finding an object -/

/-- An object in a caller's hands: the present occupant of a place, or one that was never
registered here. -/
inductive Holding
  | occupant (id : SlotId)
  | stranger
deriving DecidableEq

/-- The place that holds exactly this object. -/
def find? (r : Registry α capacity) : Holding → Option SlotId
  | .occupant id => r.entries.findSome? fun e => if e.1 = id then some id else none
  | .stranger => none

/-! ## What the operations do to `get?` -/

@[simp] theorem get?_unassigned (r : Registry α capacity) : r.get? .unassigned = none := rfl

@[simp] theorem get?_empty (h : capacity ≤ 127) (id : SlotId) :
    (empty h : Registry α capacity).get? id = none := by
  cases id with
  | unassigned => rfl
  | slot i =>
    simp only [get?, empty, List.getElem?_replicate]
    split <;> rfl

theorem get?_eq_none_of_le (r : Registry α capacity) {i : Fin 128} (h : capacity ≤ i.val) :
    r.get? (.slot i) = none := by
  simp [get?, List.getElem?_eq_none (Nat.le_trans (Nat.le_of_eq r.length_slots) h)]

theorem get?_setSlot (r : Registry α capacity) {i : Nat} (hi : i < capacity) (o : Option α)
    (j : Fin 128) :
    (r.setSlot i o).get? (.slot j) = if j.val = i then o else r.get? (.slot j) := by
  have hl : i < r.slots.length := by rw [r.length_slots]; exact hi
  by_cases h : j.val = i
  · simp [get?, setSlot, h, hl]
  · simp [get?, setSlot, h, List.getElem?_set_ne (Ne.symm h)]

theorem lt_capacity_of_get? {r : Registry α capacity} {i : Fin 128} {a : α}
    (h : r.get? (.slot i) = some a) : i.val < capacity := by
  refine Nat.lt_of_not_le fun hle => ?_
  rw [get?_eq_none_of_le r hle] at h
  cases h

/-- Changing one occupant leaves every other place alone. -/
theorem get?_modify (r : Registry α capacity) (id : SlotId) (f : α → α) (j : SlotId) :
    (r.modify id f).get? j = if j = id then (r.get? id).map f else r.get? j := by
  cases id with
  | unassigned => cases j <;> simp [modify]
  | slot i =>
    cases hget : r.get? (.slot i) with
    | none =>
      simp only [modify, hget, Option.map_none]
      split
      · next h => rw [h, hget]
      · rfl
    | some a =>
      cases j with
      | unassigned => simp
      | slot j =>
        simp only [modify, hget, get?_setSlot r (lt_capacity_of_get? hget), Option.map_some,
          SlotId.slot.injEq, Fin.ext_iff]

@[simp] theorem get?_map (r : Registry α capacity) (f : α → α) (id : SlotId) :
    (r.map f).get? id = (r.get? id).map f := by
  cases id with
  | unassigned => rfl
  | slot i =>
    simp only [get?, map, List.getElem?_map]
    cases r.slots[i.val]? with
    | none => rfl
    | some o => cases o <;> rfl

end Registry

end AquariumControl
