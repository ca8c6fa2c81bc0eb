import AquariumControl.Journal
import AquariumControl.Record
import AquariumControl.Storage.Basic

/-!
# The configuration store

Records in a storage.  The record of an object is kept under its label, the system configuration
under a key of its own.  A record is encoded completely before the storage is touched, and one that
is read is checked completely before anything takes it over.
-/

set_option autoImplicit false

namespace AquariumControl

/-- How restoring one object ended. -/
inductive Restore
  /-- The record was taken over. -/
  | applied
  /-- There is no record. -/
  | notFound
  /-- The record belongs to an object of another kind. -/
  | typeMismatch (stored live : UInt8)
deriving DecidableEq

/-- A storage and the space in it that records are kept in. -/
structure ConfigStore (τ : Type) where
  storage : τ
  space : String

namespace ConfigStore

/-- The space that is used unless another is chosen. -/
def defaultSpace : String := "config"

variable {τ : Type} [Storage τ]

/-! ## Records by key -/

/-- Stores a record under a key. -/
def writeRecord (s : ConfigStore τ) (key : String) (r : Record) :
    Outcome (ConfigStore τ) (Except Fault Unit) :=
  match r.write recordCapacity with
  | .error e => ⟨.error (.codec e), s, []⟩
  | .ok block =>
    let o := Storage.write s.storage s.space key block.written
    match o.answer with
    | .error e => ⟨.error (.storage e), { s with storage := o.state }, o.journal⟩
    | .ok () =>
      ⟨.ok (), { s with storage := o.state },
        o.journal ++ [.notice (.recordWritten key block.written.length)]⟩

/-- The record in what was read from a storage, if there was something to read. -/
def recordOf : Except StorageError Block → Except Fault (Option Record)
  | .error .notFound => .ok none
  | .error e => .error (.storage e)
  | .ok block =>
    match block.contents? recordCapacity with
    | none => .error (.codec .bufferTooSmall)
    | some bytes =>
      match Record.decode bytes with
      | .error e => .error (.codec e)
      | .ok r => .ok (some r)

/-- The record under a key, if there is one. -/
def readRecord (s : ConfigStore τ) (key : String) : Except Fault (Option Record) × Journal :=
  let (read, journal) := Storage.read s.storage s.space key recordCapacity
  (recordOf read, journal)

/-! ## Objects -/

/-- Stores the record of an object, if there is one to store. -/
def save (s : ConfigStore τ) (key : Label) (record : Except CodecError Record) :
    Outcome (ConfigStore τ) (Except Fault Unit) :=
  match record with
  | .error e => ⟨.error (.codec e), s, []⟩
  | .ok r => s.writeRecord key.text r

/-- Applies the record of an object to it, if the record is of the object's kind. -/
def restore {α : Type} (s : ConfigStore τ) (key : Label) (kind : UInt8)
    (take : Record → Except CodecError α) (object : α) : Outcome α (Except Fault Restore) :=
  let (found, journal) := s.readRecord key.text
  match found with
  | .error f => ⟨.error f, object, journal⟩
  | .ok none => ⟨.ok .notFound, object, journal⟩
  | .ok (some r) =>
    if r.kind = kind then
      match take r with
      | .error e => ⟨.error (.codec e), object, journal⟩
      | .ok object' => ⟨.ok .applied, object', journal⟩
    else
      ⟨.ok (.typeMismatch r.kind kind), object,
        journal ++ [.notice (.typeMismatch key r.kind kind)]⟩

/-- Deletes the record of an object. -/
def forget (s : ConfigStore τ) (key : Label) : Outcome (ConfigStore τ) (Except Fault Unit) :=
  ((Storage.delete s.storage s.space key.text).lift fun storage =>
    { s with storage := storage }).map (Except.mapError Fault.storage)

/-! ## The system configuration -/

/-- The stored system configuration, or the default if there is none. -/
def loadConfig (s : ConfigStore τ) : Except ConfigError SystemConfig × Journal :=
  let (found, journal) := s.readRecord SystemConfig.recordKey
  match found with
  | .error (.codec _) => (.error .corrupted, journal)
  | .error _ => (.error .ioError, journal)
  | .ok none => (.ok SystemConfig.default, journal)
  | .ok (some r) =>
    if r.kind = SystemConfig.recordKind then
      match SystemConfig.decode r.payload.val with
      | .error _ => (.error .corrupted, journal)
      | .ok config => (config.validate.map fun _ => config, journal)
    else
      (.ok SystemConfig.default, journal ++ [.notice .notSystemRecord])

/-- Stores a system configuration that makes sense. -/
def saveConfig (s : ConfigStore τ) (config : SystemConfig) :
    Outcome (ConfigStore τ) (Except ConfigError Unit) :=
  match config.validate with
  | .error e => ⟨.error e, s, []⟩
  | .ok () =>
    match config.record with
    | .error _ => ⟨.error .corrupted, s, []⟩
    | .ok r =>
      let written := s.writeRecord SystemConfig.recordKey r
      ⟨written.answer.mapError fun _ => .ioError, written.state, written.journal⟩

end ConfigStore

end AquariumControl
