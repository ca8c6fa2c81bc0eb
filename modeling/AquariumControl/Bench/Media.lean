import AquariumControl.Storage.Card
import AquariumControl.Storage.Faulty

/-!
# Bench media

The three storages as one type, so that a bench can be set up with any of them.
-/

set_option autoImplicit false

namespace AquariumControl

inductive Medium
  | memory (m : Memory)
  | flash (f : Flash)
  | card (c : Card)

namespace Medium

def write (medium : Medium) (space key : String) (bytes : List UInt8) :
    Outcome Medium (Except StorageError Unit) :=
  match medium with
  | .memory m => (Storage.write m space key bytes).lift .memory
  | .flash f => (Storage.write f space key bytes).lift .flash
  | .card c => (Storage.write c space key bytes).lift .card

def delete (medium : Medium) (space key : String) : Outcome Medium (Except StorageError Unit) :=
  match medium with
  | .memory m => (Storage.delete m space key).lift .memory
  | .flash f => (Storage.delete f space key).lift .flash
  | .card c => (Storage.delete c space key).lift .card

instance : Storage Medium where
  read
    | .memory m => Storage.read m
    | .flash f => Storage.read f
    | .card c => Storage.read c
  write := Medium.write
  delete := Medium.delete
  holds
    | .memory m => Storage.holds m
    | .flash f => Storage.holds f
    | .card c => Storage.holds c

end Medium

end AquariumControl
