import AquariumControl.Journal
import AquariumControl.Storage.Table
import AquariumControl.Wire

/-!
# Storage

Values are kept under a key in a space, so that several users can share one medium.  `Storage` is
what a medium must provide; a medium may report what it does.  Two media in memory are here, which
report nothing:

* `Memory` keeps values by space and key;
* `Flash` keeps them by one text made of both.
-/

set_option autoImplicit false

namespace AquariumControl

/-- A medium that keeps values. -/
class Storage (τ : Type) where
  /-- Reads a value into a buffer of the given capacity. -/
  read : τ → (space key : String) → Nat → Except StorageError Block × Journal
  /-- Replaces a value. -/
  write : τ → (space key : String) → List UInt8 → Outcome τ (Except StorageError Unit)
  /-- Forgets a value; it is no error if there is none. -/
  delete : τ → (space key : String) → Outcome τ (Except StorageError Unit)
  /-- Whether there is a value. -/
  holds : τ → (space key : String) → Bool

/-- Copies a value, if there is one, into a buffer that must be large enough for all of it. -/
def Storage.copy (value : Option (List UInt8)) (capacity : Nat) : Except StorageError Block :=
  match value with
  | none => .error .notFound
  | some bytes =>
    if bytes.length ≤ capacity then .ok (Block.ofBytes bytes) else .error .bufferTooSmall

/-- Values by space and key. -/
structure Memory where
  table : Table (String × String) (List UInt8)

namespace Memory

def empty : Memory := ⟨Table.empty⟩

instance : Storage Memory where
  read := fun m space key capacity => (Storage.copy (m.table.get? (space, key)) capacity, [])
  write := fun m space key bytes => ⟨.ok (), ⟨m.table.put (space, key) bytes⟩, []⟩
  delete := fun m space key => ⟨.ok (), ⟨m.table.erase (space, key)⟩, []⟩
  holds := fun m space key => m.table.contains (space, key)

end Memory

/-- Values by one text. -/
structure Flash where
  table : Table String (List UInt8)

namespace Flash

def empty : Flash := ⟨Table.empty⟩

/-- The text for a key in a space. -/
def entryName (space key : String) : String :=
  space ++ "::" ++ key

instance : Storage Flash where
  read := fun m space key capacity =>
    (Storage.copy (m.table.get? (entryName space key)) capacity, [])
  write := fun m space key bytes => ⟨.ok (), ⟨m.table.put (entryName space key) bytes⟩, []⟩
  delete := fun m space key => ⟨.ok (), ⟨m.table.erase (entryName space key)⟩, []⟩
  holds := fun m space key => m.table.contains (entryName space key)

end Flash

end AquariumControl
