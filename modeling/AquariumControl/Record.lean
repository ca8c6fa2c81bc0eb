import AquariumControl.Config
import AquariumControl.Name
import AquariumControl.Wire

/-!
# Records

What is stored of an object is one record: the kind of the object, up to three places, the name,
and a block of parameters that only the object's own kind understands.  The system configuration
is stored in a record of its own kind.

`Record.encode` and `Record.decode` are the stored form.  The record is decoded field by field,
so the first problem in the order of the bytes is the one reported; bytes after the record are
ignored.
-/

set_option autoImplicit false

namespace AquariumControl

/-- The most bytes of parameters a record may hold. -/
def payloadCapacity : Nat := 96

/-- The most bytes a record may take in storage. -/
def recordCapacity : Nat := 128

/-- The stored description of one object. -/
structure Record where
  /-- The tag of the object's kind. -/
  kind : UInt8
  controller : SlotId
  actuator : SlotId
  sensor : SlotId
  name : Name
  payload : Bytes payloadCapacity
deriving DecidableEq

namespace Record

def encode (r : Record) : List UInt8 :=
  r.kind :: (Wire.writeSlotId r.controller ++ Wire.writeSlotId r.actuator ++
    Wire.writeSlotId r.sensor ++ Wire.writeText r.name.text ++ Wire.writeBlock r.payload.val)

/-- A text that is short enough to be a name. -/
def readName : Reader Name := do
  let s ← Wire.readText
  match Name.ofString? s with
  | some n => pure n
  | none => Wire.fail .invalid

def read : Reader Record := do
  let kind ← Wire.readByte
  let controller ← Wire.readSlotId
  let actuator ← Wire.readSlotId
  let sensor ← Wire.readSlotId
  let name ← readName
  let payload ← Wire.readBlock payloadCapacity
  pure ⟨kind, controller, actuator, sensor, name, payload⟩

/-- The record in a buffer of `capacity` bytes. -/
def write (r : Record) (capacity : Nat) : Except CodecError Block :=
  Block.fit capacity r.encode

/-- The record at the front of `bytes`. -/
def decode (bytes : List UInt8) : Except CodecError Record :=
  (read.decode bytes).map Prod.fst

/-- Fills the payload with what a writer made of a buffer of `payloadCapacity` bytes. -/
def payloadOf (written : Except CodecError Block) : Except CodecError (Bytes payloadCapacity) :=
  match written with
  | .error e => .error e
  | .ok block =>
    match block.contents? payloadCapacity with
    | none => .error .bufferTooSmall
    | some bytes =>
      if h : bytes.length ≤ payloadCapacity then .ok ⟨bytes, h⟩ else .error .bufferTooSmall

end Record

/-! ## The system configuration in a record -/

namespace SystemConfig

/-- The kind of the record that holds the system configuration. -/
def recordKind : UInt8 := 0xA0

/-- The name in that record. -/
def recordName : Name := Name.ofString "aquanode"

/-- The key under which that record is stored. -/
def recordKey : String := "aqua"

def encode (c : SystemConfig) : List UInt8 :=
  let mode := match c.mode with
    | .polling => 0
    | .timer => 1
  Wire.word.write mode ++ Wire.writeUInt32 c.controlIntervalMs ++
    Wire.writeBool c.telemetryEnabled ++ Wire.writeUInt32 c.telemetryIntervalSecs

def readMode : Reader SchedulingMode := do
  let n ← Wire.word.read
  match n with
  | 0 => pure .polling
  | 1 => pure .timer
  | _ => Wire.fail .invalid

def read : Reader SystemConfig := do
  let mode ← readMode
  let interval ← Wire.readUInt32
  let enabled ← Wire.readBool
  let telemetry ← Wire.readUInt32
  pure ⟨mode, interval, enabled, telemetry⟩

def decode (bytes : List UInt8) : Except CodecError SystemConfig :=
  (read.decode bytes).map Prod.fst

/-- The record that holds a configuration. -/
def record (c : SystemConfig) : Except CodecError Record := do
  let payload ← Record.payloadOf (Block.fit payloadCapacity c.encode)
  pure ⟨recordKind, .unassigned, .unassigned, .unassigned, recordName, payload⟩

end SystemConfig

end AquariumControl
