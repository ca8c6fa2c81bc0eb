import AquariumControl.Storage.Basic

/-!
# Storage that fails on demand

A medium around another one, which can be told to refuse operations: for trying out what the rest
of the program does then.  Asking whether a value exists is never disturbed.
-/

set_option autoImplicit false

namespace AquariumControl

/-- Which operations fail, and how. -/
structure Faults where
  read : Option StorageError
  /-- Reading claims this many bytes and leaves the buffer alone. -/
  readClaim : Option Nat
  write : Option StorageError
  /-- So many writes succeed before `write` takes effect. -/
  writesLeft : Nat
  delete : Option StorageError

def Faults.none : Faults := ⟨Option.none, Option.none, Option.none, 0, Option.none⟩

/-- A medium and its faults. -/
structure Faulty (τ : Type) where
  medium : τ
  faults : Faults

namespace Faulty

variable {τ : Type} [Storage τ]

def read (f : Faulty τ) (space key : String) (capacity : Nat) :
    Except StorageError Block × Journal :=
  match f.faults.read, f.faults.readClaim with
  | some e, _ => (.error e, [])
  | none, some n => (.ok ⟨[], n⟩, [])
  | none, none => Storage.read f.medium space key capacity

/-- Writes to the medium itself. -/
def writeThrough (f : Faulty τ) (space key : String) (bytes : List UInt8) :
    Outcome (Faulty τ) (Except StorageError Unit) :=
  (Storage.write f.medium space key bytes).lift fun medium => { f with medium := medium }

def write (f : Faulty τ) (space key : String) (bytes : List UInt8) :
    Outcome (Faulty τ) (Except StorageError Unit) :=
  match f.faults.write, f.faults.writesLeft with
  | none, _ => f.writeThrough space key bytes
  | some e, 0 => ⟨.error e, f, []⟩
  | some _, n + 1 =>
    { f with faults := { f.faults with writesLeft := n } }.writeThrough space key bytes

def delete (f : Faulty τ) (space key : String) : Outcome (Faulty τ) (Except StorageError Unit) :=
  match f.faults.delete with
  | some e => ⟨.error e, f, []⟩
  | none => (Storage.delete f.medium space key).lift fun medium => { f with medium := medium }

instance : Storage (Faulty τ) where
  read := Faulty.read
  write := Faulty.write
  delete := Faulty.delete
  holds := fun f space key => Storage.holds f.medium space key

end Faulty

end AquariumControl
