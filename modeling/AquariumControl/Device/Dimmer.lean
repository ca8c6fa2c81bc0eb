import AquariumControl.Device.Actuator
import AquariumControl.Device.Line

/-!
# Dimmers

An output with a level: a light or a pump on a duty-cycle channel.  The configured duty is kept
while the dimmer is off; switching on applies it, switching off drives the channel to zero.  The
duty is a number from 0 to 1 and is the one parameter that is stored.
-/

set_option autoImplicit false

namespace AquariumControl

/-- A channel, the configured duty, and whether it is applied. -/
structure Dimmer where
  line : Line
  duty : Binary32
  on : Bool
deriving DecidableEq

namespace Dimmer

/-- The whole number nearest to a magnitude, a half going up. -/
def nearest (x : Binary.Scaled) : Nat :=
  (2 * (x.significand <<< x.exponent.toNat) + (1 <<< (-x.exponent).toNat)) /
    (2 * (1 <<< (-x.exponent).toNat))

/-- The channel value for a duty: the duty times `max`, rounded, and never above `max`. -/
def rawDuty (duty : Binary32) (max : UInt16) : UInt16 :=
  let product := duty.mul (Binary32.ofUInt16 max)
  if product.isNaN || product.isNegative then
    0
  else
    match product.scaled? with
    | none => max
    | some s => UInt16.ofNat (min (nearest s) max.toNat)

/-- Drives the channel to a duty. -/
def driveDuty? (d : Dimmer) (duty : Binary32) : Option Dimmer :=
  (d.line.setDuty? (rawDuty duty d.line.maxDuty)).map fun line => { d with line := line }

/-- Switching on applies the configured duty, switching off drives the channel to zero. -/
def drive (d : Dimmer) (on : Bool) : Except ActuatorError Unit × Dimmer :=
  match d.driveDuty? (if on then d.duty else Binary.zero) with
  | none => (.error .pwmWriteFailed, d)
  | some d' => (.ok (), { d' with on := on })

/-- The nearest duty from 0 to 1; what is no number counts as 0. -/
def clamp (duty : Binary32) : Binary32 :=
  if duty.isNaN || duty.lt Binary.zero then Binary.zero
  else if Binary32.one.lt duty then Binary32.one
  else duty

/-- Configures the duty, which takes effect at once if the dimmer is on. -/
def setPwm (d : Dimmer) (duty : Binary32) : Except ActuatorError Unit × Dimmer :=
  if d.on then
    match d.driveDuty? (clamp duty) with
    | none => (.error .pwmWriteFailed, d)
    | some d' => (.ok (), { d' with duty := clamp duty })
  else
    (.ok (), { d with duty := clamp duty })

/-- A dimmer at full duty on a line, which is driven to zero at once. -/
def create (line : Line) : Except ActuatorError Dimmer :=
  match drive ⟨line, Binary32.one, true⟩ false with
  | (.ok (), d) => .ok d
  | (.error e, _) => .error e

/-- A duty is valid from 0 to 1. -/
def isDuty (duty : Binary32) : Bool :=
  Binary.zero.le duty && duty.le Binary32.one

/-- Takes a duty from bytes.  The channel is not touched. -/
def load (d : Dimmer) (bytes : List UInt8) : Except CodecError (Dimmer × Nat) :=
  match Reader.decode (Wire.readBinary Format.single) bytes with
  | .error e => .error e
  | .ok (duty, used) => if isDuty duty then .ok ({ d with duty := duty }, used) else .error .invalid

instance : Actuator Dimmer where
  kind := fun _ => .dimmer
  isOn := Dimmer.on
  drive := Dimmer.drive
  supportsPwm := fun _ => true
  setPwm := Dimmer.setPwm
  pwm := fun d => if d.on then d.duty else Binary.zero
  save := fun d capacity => Block.fit capacity (Wire.writeBinary d.duty)
  load := Dimmer.load

end Dimmer

end AquariumControl
