/-!
# Slot ids

Every controller, actuator and sensor is known by the place it occupies in its registry.  A
`SlotId` is such a place, or the statement that there is none.

Ids have three forms outside the program: a number in answers (`toInt`, `-1` for no place), a
decimal text in messages (`text`) and one byte in stored records (`toByte`, a two's complement
byte of which every negative value reads back as "no place").
-/

set_option autoImplicit false

namespace AquariumControl

/-- A place in a registry, numbered from 0 to 127, or none at all. -/
inductive SlotId
  | unassigned
  | slot (index : Fin 128)
deriving DecidableEq, Inhabited

namespace SlotId

/-- The place with number `n`; numbers above 127 name no place. -/
def ofNat (n : Nat) : SlotId :=
  if h : n < 128 then .slot ⟨n, h⟩ else .unassigned

/-- The place with number `i`; negative numbers, like those above 127, name no place. -/
def ofInt : Int → SlotId
  | .ofNat n => ofNat n
  | .negSucc _ => .unassigned

def toInt : SlotId → Int
  | .unassigned => -1
  | .slot i => i.val

/-- The registry index an id stands for. -/
def index : SlotId → Option Nat
  | .unassigned => none
  | .slot i => some i.val

def isAssigned : SlotId → Bool
  | .unassigned => false
  | .slot _ => true

/-- The decimal number of the place, `-1` for none. -/
def text (id : SlotId) : String :=
  toString id.toInt

/-- The stored form: one two's complement byte. -/
def toByte : SlotId → UInt8
  | .unassigned => 255
  | .slot i => UInt8.ofNat i.val

/-- Reads a stored byte.  The 128 negative bytes all mean "no place". -/
def ofByte (b : UInt8) : SlotId :=
  ofNat b.toNat

/-- The id itself if it addresses a registry of `capacity` places, otherwise none. -/
def within (capacity : Nat) : SlotId → SlotId
  | .unassigned => .unassigned
  | .slot i => if i.val < capacity then .slot i else .unassigned

@[simp] theorem ofNat_val (i : Fin 128) : ofNat i.val = .slot i := by
  simp [ofNat]

theorem ofNat_of_lt {n : Nat} (h : n < 128) : ofNat n = .slot ⟨n, h⟩ := by
  simp [ofNat, h]

theorem ofNat_inj {m n : Nat} (hm : m < 128) (hn : n < 128) (h : ofNat m = ofNat n) : m = n := by
  rw [ofNat_of_lt hm, ofNat_of_lt hn] at h
  simpa using h

/-- Writing an id as a byte and reading it back gives the id. -/
@[simp] theorem ofByte_toByte (id : SlotId) : ofByte id.toByte = id := by
  cases id with
  | unassigned => rfl
  | slot i =>
    have h : i.val % 256 = i.val := Nat.mod_eq_of_lt (by omega)
    simp [toByte, ofByte, h]

@[simp] theorem ofInt_toInt (id : SlotId) : ofInt id.toInt = id := by
  cases id with
  | unassigned => rfl
  | slot i => exact ofNat_val i

end SlotId

end AquariumControl
