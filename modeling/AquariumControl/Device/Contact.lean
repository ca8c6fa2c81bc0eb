import AquariumControl.Device.Line
import AquariumControl.Device.Sensor

/-!
# Contacts

A float switch or door contact on a pin: `1` while the pin is at its active level and `0`
otherwise.  Which level is the active one is the stored parameter.
-/

set_option autoImplicit false

namespace AquariumControl

/-- A two-state input on a line. -/
structure Contact where
  line : Line
  activeLow : Bool
deriving DecidableEq

namespace Contact

def read (c : Contact) : Except SensorError Binary64 × Contact :=
  match c.line.level? with
  | none => (.error .gpioReadFailed, c)
  | some high => (.ok (if high != c.activeLow then Binary64.one else Binary.zero), c)

/-- Takes the active level from bytes. -/
def load (c : Contact) (bytes : List UInt8) : Except CodecError (Contact × Nat) :=
  match Reader.decode Wire.readBool bytes with
  | .error e => .error e
  | .ok (activeLow, used) => .ok ({ c with activeLow := activeLow }, used)

instance : Sensor Contact where
  kind := fun _ => .contact
  read := Contact.read
  save := fun c capacity => Block.fit capacity (Wire.writeBool c.activeLow)
  load := Contact.load

end Contact

end AquariumControl
