import AquariumControl.Proofs.Saving

/-!
# Room in a record

A record has room for 96 bytes of parameters and takes at most 128 bytes itself.  The rules and
drivers of this library never need more (`standard_objects_fit`), whatever they are set to, so that
saving one of them can only fail where the medium refuses the record.

For a schedule this rests on its windows.  A number of sixteen bits takes up to three bytes, and
with three bytes for every end of a window four timers would not fit; but a window ends within the
day, whether it was made from clock times or taken from a record that was accepted, and a minute of
the day takes two (`StoredTimer.length_encode_le`).
-/

set_option autoImplicit false

namespace AquariumControl

open Wire

/-! ## The room that parameters take -/

/-- How many bytes the parameters of a rule may take. -/
def StandardRule.Takes : StandardRule → Nat → Prop
  | .thermostat _, n => n = 37
  | .topUp _, n => n ≤ 10
  | .schedule _, n => n ≤ 76

/-- How many bytes the parameters of an output take. -/
def StandardOutput.Takes {δ : Type} : StandardOutput δ → Nat → Prop
  | .dimmer _, n => n = 4
  | _, n => n = 0

/-- How many bytes the parameters of a sensor take. -/
def StandardSensor.Takes {σ : Type} : StandardSensor σ → Nat → Prop
  | .contact _, n => n = 1
  | .thermistor _, n => n = 8
  | .other _, n => n = 0

theorem StandardRule.takes_encode (rule : StandardRule) : rule.Takes rule.encode.length := by
  cases rule with
  | thermostat r => exact r.stored.length_encode
  | topUp r => exact r.length_encode_le
  | schedule r => exact r.length_encode_le

theorem StandardOutput.takes_encode {δ : Type} (output : StandardOutput δ) :
    output.Takes output.encode.length := by
  cases output with
  | outlet o => rfl
  | dimmer d => exact length_writeBinary d.duty
  | other d => rfl

theorem StandardSensor.takes_encode {σ : Type} (sensor : StandardSensor σ) :
    sensor.Takes sensor.encode.length := by
  cases sensor with
  | contact c => rfl
  | thermistor t => exact length_writeBinary t.offset
  | other d => rfl

/-! ## Objects and their records -/

/-- An object fits its record: the parameters it saves are within the room for them and become the
payload of its record, the record is not too long either, and storing it ends as the medium answers
to the bytes of the record. -/
structure FitsRecord {τ : Type} [Storage τ] (store : ConfigStore τ) (key : Label)
    (save : Except CodecError Block) (record : Except CodecError Record) (bytes : List UInt8)
    (r : Record) : Prop where
  saved : save = .ok (Block.ofBytes bytes)
  within : bytes.length ≤ payloadCapacity
  made : record = .ok r
  payload : r.payload.val = bytes
  encoded : r.encode.length ≤ recordCapacity
  stored : (store.save key record).answer =
    (Storage.write store.storage store.space key.text r.encode).answer.mapError .storage

variable {δ σ τ : Type} [Storage τ]

theorem FitsRecord.of_made {store : ConfigStore τ} {key : Label} {save : Except CodecError Block}
    {record : Except CodecError Record} {r : Record}
    (hsaved : save = .ok (Block.ofBytes r.payload.val)) (hmade : record = .ok r) :
    FitsRecord store key save record r.payload.val r where
  saved := hsaved
  within := r.payload.property
  made := hmade
  payload := rfl
  encoded := r.length_encode_le
  stored := by
    rw [hmade]
    exact store.answer_writeRecord key.text r

/-- **The rules and drivers of this library fit their records.**  Whatever an object is set to, and
whatever its name, the controller it is assigned to and the place it is stored for, the parameters
it saves are no more than 96 bytes: 37 of a thermostat, at most 10 of a top-up rule and at most 76 of
a schedule.  Its record is no more than 128 bytes, and storing it fails just where the medium does
not accept these bytes, with the answer of the medium. -/
theorem standard_objects_fit [Actuator δ] [Sensor σ] (store : ConfigStore τ) (place : SlotId) :
    (∀ s : ControllerSlot StandardRule, ∃ bytes r,
      FitsRecord store ⟨.controller, place⟩ (Rule.save s.rule payloadCapacity) (s.record place)
        bytes r ∧ s.rule.Takes bytes.length) ∧
    (∀ s : ActuatorSlot (StandardOutput δ), ∃ bytes r,
      FitsRecord store ⟨.actuator, place⟩ (Actuator.save s.device payloadCapacity)
        (s.record place) bytes r ∧ s.device.Takes bytes.length) ∧
    ∀ s : SensorSlot (StandardSensor σ), ∃ bytes r,
      FitsRecord store ⟨.sensor, place⟩ (Sensor.save s.device payloadCapacity) (s.record place)
        bytes r ∧ s.device.Takes bytes.length := by
  refine ⟨fun s => ?_, fun s => ?_, fun s => ?_⟩
  · exact ⟨_, s.stored place, .of_made s.rule.save_eq (s.record_eq place), s.rule.takes_encode⟩
  · exact ⟨_, s.stored place, .of_made s.device.save_eq (s.record_eq place), s.device.takes_encode⟩
  · exact ⟨_, s.stored place, .of_made s.device.save_eq (s.record_eq place), s.device.takes_encode⟩

end AquariumControl
