import AquariumControl.Device.Sensor

/-!
# Thermistors

A temperature probe in a voltage divider: 10 kΩ at 25 °C against a fixed resistor of 10 kΩ, read
by a 12-bit converter at 3.3 V.  `celsius` turns a converter sample into a temperature by the
simplified Beta equation; a probe adds its own calibration offset, which is the stored parameter.
-/

set_option autoImplicit false

namespace AquariumControl

namespace Thermistor

/-- The temperature for a converter sample.  A voltage within 10 mV of either rail means that the
probe is shorted or not connected. -/
def celsius (raw : UInt16) : Except SensorError Binary64 :=
  let voltage : Float := raw.toFloat / 4095.0 * 3.3
  if voltage ≤ 0.01 || voltage ≥ (3.3 - 0.01) then
    .error .outOfRange
  else
    let resistance : Float := 10000.0 * voltage / (3.3 - voltage)
    let inverse : Float := 1.0 / 298.15 + 1.0 / 3950.0 * Float.log (resistance / 10000.0)
    if inverse ≤ 0.0 then
      .error .outOfRange
    else
      .ok (Binary64.ofFloat (1.0 / inverse - 273.15))

end Thermistor

/-- Where samples come from. -/
inductive Converter
  /-- A source that gives the same answer until it is changed. -/
  | fixed (answer : Except SensorError UInt16)
  /-- A channel of the board's own converter, which is absent off the board. -/
  | channel (number : Nat)

/-- One conversion. -/
def Converter.sample : Converter → Except SensorError UInt16
  | .fixed answer => answer
  | .channel _ => .error .adcReadFailed

/-- A probe on a converter with its calibration offset in degrees. -/
structure Thermistor where
  converter : Converter
  offset : Binary64

namespace Thermistor

/-- A probe that needs no calibration. -/
def create (converter : Converter) : Thermistor :=
  ⟨converter, Binary.zero⟩

def read (t : Thermistor) : Except SensorError Binary64 × Thermistor :=
  match t.converter.sample with
  | .error e => (.error e, t)
  | .ok raw => ((celsius raw).map fun x => x.add t.offset, t)

/-- Takes an offset from bytes; it must be finite. -/
def load (t : Thermistor) (bytes : List UInt8) : Except CodecError (Thermistor × Nat) :=
  match Reader.decode (Wire.readBinary Format.double) bytes with
  | .error e => .error e
  | .ok (offset, used) =>
    if offset.isFinite then .ok ({ t with offset := offset }, used) else .error .invalid

instance : Sensor Thermistor where
  kind := fun _ => .thermistor
  read := Thermistor.read
  save := fun t capacity => Block.fit capacity (Wire.writeBinary t.offset)
  load := Thermistor.load

end Thermistor

end AquariumControl
