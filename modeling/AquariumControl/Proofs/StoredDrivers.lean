import AquariumControl.Aquarium.Basic
import AquariumControl.Device.Contact
import AquariumControl.Device.Dimmer
import AquariumControl.Device.Outlet
import AquariumControl.Device.Thermistor
import AquariumControl.Proofs.Stored

/-!
# What is stored of a driver

The drivers of this library as one type for outputs and one for sensors, each with room for drivers
of any other make that store nothing.  As with rules, what saving and loading do is said through
what is stored: the duty of a dimmer, the active level of a contact, the offset of a thermistor.

A duty must be a number from 0 to 1 and an offset must be finite, or what was saved is refused
later.  `Dimmer.Made` lists how a dimmer can come about, and `Dimmer.Made.isDuty` says that its duty
is valid then.
-/

set_option autoImplicit false

namespace AquariumControl

open Reader Wire

/-! ## Dimmers -/

namespace Dimmer

/-- How a dimmer can come about: it is created on a line, and then driven, set and loaded, with
whatever happens to its line. -/
inductive Made : Dimmer → Prop
  | create {line : Line} {d : Dimmer} (h : create line = .ok d) : Made d
  | drive {d : Dimmer} (h : Made d) (on : Bool) : Made (d.drive on).2
  | setPwm {d : Dimmer} (h : Made d) (duty : Binary32) : Made (d.setPwm duty).2
  | load {d d' : Dimmer} {bytes : List UInt8} {used : Nat} (h : Made d)
      (hload : d.load bytes = .ok (d', used)) : Made d'
  | line {d : Dimmer} (h : Made d) (line : Line) : Made { d with line := line }

/-- A line that takes the lowest level makes a dimmer. -/
theorem create_eq {line line' : Line}
    (h : line.setDuty? (rawDuty Binary.zero line.maxDuty) = some line') :
    create line = .ok ⟨line', Binary32.one, false⟩ := by
  simp only [create, drive, driveDuty?, Bool.false_eq_true, if_false, h]
  rfl

theorem duty_drive (d : Dimmer) (on : Bool) : (d.drive on).2.duty = d.duty := by
  simp only [drive, driveDuty?]
  cases d.line.setDuty? (rawDuty (if on then d.duty else Binary.zero) d.line.maxDuty) <;> rfl

/-- What is clamped is a duty. -/
theorem isDuty_clamp (duty : Binary32) : isDuty (clamp duty) = true := by
  rw [clamp]
  split
  · decide
  · next hlow =>
    split
    · decide
    · next hhigh =>
      simp only [Bool.or_eq_true, not_or, Bool.not_eq_true] at hlow hhigh
      have hzero : (Binary.zero : Binary32).isNaN = false := by decide
      have hone : Binary32.one.isNaN = false := by decide
      rw [isDuty, Bool.and_eq_true_iff]
      exact ⟨(Binary.le_iff_not_lt hzero hlow.1).mpr hlow.2,
        (Binary.le_iff_not_lt hlow.1 hone).mpr hhigh⟩

theorem isDuty_setPwm {d : Dimmer} (h : isDuty d.duty = true) (duty : Binary32) :
    isDuty (d.setPwm duty).2.duty = true := by
  rw [setPwm]
  split
  · split
    · exact h
    · exact isDuty_clamp duty
  · exact isDuty_clamp duty

theorem isDuty_of_load {d d' : Dimmer} {bytes : List UInt8} {used : Nat}
    (hload : d.load bytes = .ok (d', used)) : isDuty d'.duty = true := by
  rw [load] at hload
  split at hload
  · cases hload
  · split at hload
    · next hduty =>
      obtain ⟨rfl, -⟩ := Prod.mk.inj (Except.ok.inj hload)
      exact hduty
    · cases hload

/-- **The duty of a dimmer is always one.** -/
theorem Made.isDuty {d : Dimmer} (h : Made d) : isDuty d.duty = true := by
  induction h with
  | @create line d h =>
    have hduty := duty_drive ⟨line, Binary32.one, true⟩ false
    rw [Dimmer.create] at h
    split at h
    · next heq =>
      rw [heq] at hduty
      rw [← Except.ok.inj h, hduty]
      show Dimmer.isDuty Binary32.one = true
      decide
    · cases h
  | drive h on ih => rwa [duty_drive]
  | setPwm h duty ih => exact isDuty_setPwm ih duty
  | load h hload ih => exact isDuty_of_load hload
  | line h line ih => exact ih

end Dimmer

/-! ## Outputs -/

/-- The output drivers of this library, and drivers of another make that store nothing. -/
inductive StandardOutput (δ : Type)
  | outlet (o : Outlet)
  | dimmer (d : Dimmer)
  | other (d : δ)

namespace StandardOutput

variable {δ : Type}

section Driver

variable [Actuator δ]

def drive (output : StandardOutput δ) (on : Bool) :
    Except ActuatorError Unit × StandardOutput δ :=
  match output with
  | .outlet o => let (answer, o') := o.drive on; (answer, .outlet o')
  | .dimmer d => let (answer, d') := d.drive on; (answer, .dimmer d')
  | .other d => let (answer, d') := Actuator.drive d on; (answer, .other d')

def setPwm (output : StandardOutput δ) (duty : Binary32) :
    Except ActuatorError Unit × StandardOutput δ :=
  match output with
  | .outlet o => let (answer, o') := Actuator.setPwm o duty; (answer, .outlet o')
  | .dimmer d => let (answer, d') := d.setPwm duty; (answer, .dimmer d')
  | .other d => let (answer, d') := Actuator.setPwm d duty; (answer, .other d')

def load (output : StandardOutput δ) (bytes : List UInt8) :
    Except CodecError (StandardOutput δ × Nat) :=
  match output with
  | .outlet o => (Actuator.load o bytes).map fun (o', used) => (.outlet o', used)
  | .dimmer d => (d.load bytes).map fun (d', used) => (.dimmer d', used)
  | .other d => .ok (.other d, 0)

instance : Actuator (StandardOutput δ) where
  kind
    | .outlet o => Actuator.kind o
    | .dimmer d => Actuator.kind d
    | .other d => Actuator.kind d
  isOn
    | .outlet o => Actuator.isOn o
    | .dimmer d => Actuator.isOn d
    | .other d => Actuator.isOn d
  drive := StandardOutput.drive
  supportsPwm
    | .outlet o => Actuator.supportsPwm o
    | .dimmer d => Actuator.supportsPwm d
    | .other d => Actuator.supportsPwm d
  setPwm := StandardOutput.setPwm
  pwm
    | .outlet o => Actuator.pwm o
    | .dimmer d => Actuator.pwm d
    | .other d => Actuator.pwm d
  save
    | .outlet o => Actuator.save o
    | .dimmer d => Actuator.save d
    | .other _ => fun _ => .ok .empty
  load := StandardOutput.load

end Driver

/-- Which driver it is. -/
def make : StandardOutput δ → ActuatorKind
  | .outlet _ => .outlet
  | .dimmer _ => .dimmer
  | .other _ => .custom

/-- Two outputs of one make. -/
inductive Alike : StandardOutput δ → StandardOutput δ → Prop
  | outlet (o o' : Outlet) : Alike (.outlet o) (.outlet o')
  | dimmer (d d' : Dimmer) : Alike (.dimmer d) (.dimmer d')
  | other (d d' : δ) : Alike (.other d) (.other d')

theorem alike_of_make {output output' : StandardOutput δ} (h : output'.make = output.make) :
    Alike output output' := by
  cases output <;> cases output' <;>
    first | exact .outlet _ _ | exact .dimmer _ _ | exact .other _ _ | cases h

/-- How an output can come about, as far as it matters to what is stored. -/
def Made : StandardOutput δ → Prop
  | .dimmer d => d.Made
  | _ => True

/-- What is stored: the duty of a dimmer. -/
def parameters : StandardOutput δ → Option Binary32
  | .dimmer d => some d.duty
  | _ => none

/-- The bytes in which an output is saved. -/
def encode : StandardOutput δ → List UInt8
  | .dimmer d => writeBinary d.duty
  | _ => []

/-- The parameters that bytes describe to an output, if they describe any. -/
def describe (output : StandardOutput δ) (bytes : List UInt8) :
    Except CodecError (Option Binary32) :=
  match output with
  | .dimmer _ =>
    match Reader.decode (readBinary Format.single) bytes with
    | .error e => .error e
    | .ok (duty, _) => if Dimmer.isDuty duty then .ok (some duty) else .error .invalid
  | _ => .ok none

theorem length_encode_le (output : StandardOutput δ) : output.encode.length ≤ payloadCapacity := by
  cases output with
  | outlet o => exact Nat.zero_le _
  | dimmer d => exact Nat.le_trans (Nat.le_of_eq (length_writeBinary d.duty)) (by decide)
  | other d => exact Nat.zero_le _

/-- To an output of the same make the saved bytes describe the parameters again. -/
theorem describe_encode {output output' : StandardOutput δ} (hmade : output.Made)
    (hmake : output'.make = output.make) :
    output'.describe output.encode = .ok output.parameters := by
  cases alike_of_make hmake with
  | outlet o o' => rfl
  | dimmer d d' =>
    have hreads := (reads_binary (f := Format.single) (by decide) d.duty).decode_self
    have hduty : Dimmer.isDuty d.duty = true := Dimmer.Made.isDuty hmade
    simp only [describe, encode, hreads, hduty, if_true, parameters]
  | other d d' => rfl

variable [Actuator δ]

theorem made_drive {output : StandardOutput δ} (h : output.Made) (on : Bool) :
    (Actuator.drive output on).2.Made := by
  cases output with
  | outlet o => trivial
  | dimmer d => exact Dimmer.Made.drive h on
  | other d => trivial

theorem made_of_load {output output' : StandardOutput δ} {bytes : List UInt8} {used : Nat}
    (h : output.Made) (hload : Actuator.load output bytes = .ok (output', used)) :
    output'.Made := by
  cases output with
  | outlet o =>
    obtain ⟨rfl, -⟩ := Prod.mk.inj (Except.ok.inj hload)
    trivial
  | dimmer d =>
    obtain ⟨⟨d', n⟩, hd, he⟩ := Except.map_eq_ok hload
    obtain ⟨rfl, -⟩ := Prod.mk.inj he
    exact Dimmer.Made.load h hd
  | other d =>
    obtain ⟨rfl, -⟩ := Prod.mk.inj (Except.ok.inj hload)
    trivial

theorem save_eq_fit (output : StandardOutput δ) (capacity : Nat) :
    Actuator.save output capacity = Block.fit capacity output.encode := by
  cases output <;> rfl

/-- Saving writes the parameters. -/
theorem save_eq (output : StandardOutput δ) :
    Actuator.save output payloadCapacity = .ok (Block.ofBytes output.encode) := by
  rw [save_eq_fit, Block.fit_of_le output.length_encode_le]

theorem payloadOf_save (output : StandardOutput δ) :
    Record.payloadOf (Actuator.save output payloadCapacity) =
      .ok ⟨output.encode, output.length_encode_le⟩ := by
  rw [save_eq, Record.payloadOf_ofBytes output.length_encode_le]

/-- **What loading makes of an output**: nothing if the bytes describe no parameters, and otherwise
an output with those parameters. -/
theorem load_eq (output : StandardOutput δ) (bytes : List UInt8) :
    (Actuator.load output bytes).map (fun loaded => loaded.1.parameters) =
      output.describe bytes := by
  cases output with
  | outlet o => rfl
  | dimmer d =>
    change ((d.load bytes).map _).map _ = _
    rw [Dimmer.load, describe]
    cases Reader.decode (readBinary Format.single) bytes with
    | error e => rfl
    | ok decoded =>
      dsimp only
      split <;> rfl
  | other d => rfl

end StandardOutput

/-! ## Sensors -/

/-- The sensor drivers of this library, and drivers of another make that store nothing. -/
inductive StandardSensor (σ : Type)
  | contact (c : Contact)
  | thermistor (t : Thermistor)
  | other (d : σ)

/-- What is stored of a sensor. -/
inductive SensorParameters
  | contact (activeLow : Bool)
  | thermistor (offset : Binary64)
  | none
deriving DecidableEq

namespace StandardSensor

variable {σ : Type}

section Driver

variable [Sensor σ]

def read (sensor : StandardSensor σ) : Except SensorError Binary64 × StandardSensor σ :=
  match sensor with
  | .contact c => let (answer, c') := c.read; (answer, .contact c')
  | .thermistor t => let (answer, t') := t.read; (answer, .thermistor t')
  | .other d => let (answer, d') := Sensor.read d; (answer, .other d')

def load (sensor : StandardSensor σ) (bytes : List UInt8) :
    Except CodecError (StandardSensor σ × Nat) :=
  match sensor with
  | .contact c => (c.load bytes).map fun (c', used) => (.contact c', used)
  | .thermistor t => (t.load bytes).map fun (t', used) => (.thermistor t', used)
  | .other d => .ok (.other d, 0)

instance : Sensor (StandardSensor σ) where
  kind
    | .contact c => Sensor.kind c
    | .thermistor t => Sensor.kind t
    | .other d => Sensor.kind d
  read := StandardSensor.read
  save
    | .contact c => Sensor.save c
    | .thermistor t => Sensor.save t
    | .other _ => fun _ => .ok .empty
  load := StandardSensor.load

end Driver

/-- Which driver it is. -/
def make : StandardSensor σ → SensorKind
  | .contact _ => .contact
  | .thermistor _ => .thermistor
  | .other _ => .custom

/-- Two sensors of one make. -/
inductive Alike : StandardSensor σ → StandardSensor σ → Prop
  | contact (c c' : Contact) : Alike (.contact c) (.contact c')
  | thermistor (t t' : Thermistor) : Alike (.thermistor t) (.thermistor t')
  | other (d d' : σ) : Alike (.other d) (.other d')

theorem alike_of_make {sensor sensor' : StandardSensor σ} (h : sensor'.make = sensor.make) :
    Alike sensor sensor' := by
  cases sensor <;> cases sensor' <;>
    first | exact .contact _ _ | exact .thermistor _ _ | exact .other _ _ | cases h

/-- The offset is finite, if there is one. -/
def Calibrated : StandardSensor σ → Prop
  | .thermistor t => t.offset.isFinite = true
  | _ => True

def parameters : StandardSensor σ → SensorParameters
  | .contact c => .contact c.activeLow
  | .thermistor t => .thermistor t.offset
  | .other _ => .none

/-- The bytes in which a sensor is saved. -/
def encode : StandardSensor σ → List UInt8
  | .contact c => writeBool c.activeLow
  | .thermistor t => writeBinary t.offset
  | .other _ => []

/-- The parameters that bytes describe to a sensor, if they describe any. -/
def describe (sensor : StandardSensor σ) (bytes : List UInt8) :
    Except CodecError SensorParameters :=
  match sensor with
  | .contact _ =>
    match Reader.decode readBool bytes with
    | .error e => .error e
    | .ok (activeLow, _) => .ok (.contact activeLow)
  | .thermistor _ =>
    match Reader.decode (readBinary Format.double) bytes with
    | .error e => .error e
    | .ok (offset, _) =>
      if offset.isFinite then .ok (.thermistor offset) else .error .invalid
  | .other _ => .ok .none

theorem length_encode_le (sensor : StandardSensor σ) : sensor.encode.length ≤ payloadCapacity := by
  cases sensor with
  | contact c => exact Nat.le_trans (Nat.le_refl 1) (by decide)
  | thermistor t => exact Nat.le_trans (Nat.le_of_eq (length_writeBinary t.offset)) (by decide)
  | other d => exact Nat.zero_le _

/-- To a sensor of the same make the saved bytes describe the parameters again. -/
theorem describe_encode {sensor sensor' : StandardSensor σ} (hfinite : sensor.Calibrated)
    (hmake : sensor'.make = sensor.make) :
    sensor'.describe sensor.encode = .ok sensor.parameters := by
  cases alike_of_make hmake with
  | contact c c' => simp only [describe, encode, (reads_bool c.activeLow).decode_self, parameters]
  | thermistor t t' =>
    have hreads := (reads_binary (f := Format.double) (by decide) t.offset).decode_self
    have hoffset : t.offset.isFinite = true := hfinite
    simp only [describe, encode, hreads, hoffset, if_true, parameters]
  | other d d' => rfl

variable [Sensor σ]

theorem save_eq_fit (sensor : StandardSensor σ) (capacity : Nat) :
    Sensor.save sensor capacity = Block.fit capacity sensor.encode := by
  cases sensor <;> rfl

/-- Saving writes the parameters. -/
theorem save_eq (sensor : StandardSensor σ) :
    Sensor.save sensor payloadCapacity = .ok (Block.ofBytes sensor.encode) := by
  rw [save_eq_fit, Block.fit_of_le sensor.length_encode_le]

theorem payloadOf_save (sensor : StandardSensor σ) :
    Record.payloadOf (Sensor.save sensor payloadCapacity) =
      .ok ⟨sensor.encode, sensor.length_encode_le⟩ := by
  rw [save_eq, Record.payloadOf_ofBytes sensor.length_encode_le]

/-- **What loading makes of a sensor**: nothing if the bytes describe no parameters, and otherwise a
sensor with those parameters. -/
theorem load_eq (sensor : StandardSensor σ) (bytes : List UInt8) :
    (Sensor.load sensor bytes).map (fun loaded => loaded.1.parameters) =
      sensor.describe bytes := by
  cases sensor with
  | contact c =>
    change ((c.load bytes).map _).map _ = _
    rw [Contact.load, describe]
    cases Reader.decode readBool bytes <;> rfl
  | thermistor t =>
    change ((t.load bytes).map _).map _ = _
    rw [Thermistor.load, describe]
    cases Reader.decode (readBinary Format.double) bytes with
    | error e => rfl
    | ok decoded =>
      dsimp only
      split <;> rfl
  | other d => rfl

end StandardSensor

/-- An aquarium with the rules and drivers of this library, and drivers of another make that store
nothing. -/
abbrev StandardAquarium (δ σ : Type) :=
  Aquarium StandardRule (StandardOutput δ) (StandardSensor σ)

end AquariumControl
