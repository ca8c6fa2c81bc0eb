import AquariumControl.Proofs.Saving

/-!
# The system configuration in the store

The main loop is set up from a configuration that comes out of the store.  Whatever is stored, and
however the medium behaves, it is one that makes sense.

* `SystemConfig.validate_eq_ok_iff` — what is checked, as ranges.
* `ConfigStore.Loading` — the eight ways in which loading can end, by what the medium answers: the
  bytes of a record, the record in them, the payload of the record and the configuration in that
  can each be at fault.
* `ConfigStore.configOf` — the same as a function of the record that is found, on which alone loading
  depends (`ConfigStore.loadConfig_eq`).
* `ConfigStore.only_sensible_configs` — what loading gives makes sense, saving writes nothing else,
  and what was saved is loaded again.
-/

set_option autoImplicit false

namespace AquariumControl

open Reader Wire

namespace SystemConfig

/-! ## What makes sense -/

/-- From ten cycles a second to one a minute, transmissions from every five seconds to every hour,
and at least one cycle between two of them. -/
structure Sensible (c : SystemConfig) : Prop where
  control_ge : 100 ≤ c.controlIntervalMs.toNat
  control_le : c.controlIntervalMs.toNat ≤ 60000
  telemetry_ge : 5 ≤ c.telemetryIntervalSecs.toNat
  telemetry_le : c.telemetryIntervalSecs.toNat ≤ 3600
  control_le_telemetry : c.controlIntervalMs.toNat ≤ c.telemetryIntervalSecs.toNat * 1000

theorem problem?_eq_none_iff {c : SystemConfig} : c.problem? = none ↔ c.Sensible := by
  rw [problem?]
  constructor
  · intro h
    split at h
    · cases h
    · split at h
      · cases h
      · split at h
        · cases h
        · constructor <;> omega
  · rintro ⟨hcontrol, hcontrol', htelemetry, htelemetry', hrelation⟩
    rw [if_neg (by omega), if_neg (by omega), if_neg (by omega)]

/-- Just what makes sense is accepted. -/
theorem validate_eq_ok_iff {c : SystemConfig} : c.validate = .ok () ↔ c.Sensible := by
  rw [← problem?_eq_none_iff, validate]
  cases c.problem? with
  | none => exact ⟨fun _ => rfl, fun _ => rfl⟩
  | some reason => exact ⟨fun h => (nomatch h), fun h => (nomatch h)⟩

theorem sensible_default : default.Sensible := by
  constructor <;> decide

/-! ## The record of a configuration -/

theorem reads (c : SystemConfig) : read.Reads c.encode c := by
  obtain ⟨mode, interval, enabled, telemetry⟩ := c
  -- the mode is the first field, and the only one with bytes of its own for every value
  have hrest : ∀ {bytes : List UInt8}, readMode.Reads bytes mode →
      read.Reads (bytes ++ (writeUInt32 interval ++ (writeBool enabled ++ writeUInt32 telemetry)))
        ⟨mode, interval, enabled, telemetry⟩ := by
    intro bytes hmode
    refine hmode.bind ?_
    refine (reads_uint32 interval).bind ?_
    refine (reads_bool enabled).bind ?_
    exact (reads_uint32 telemetry).andThen rfl
  rw [encode]
  simp only [List.append_assoc]
  cases mode with
  | polling => exact hrest ((reads_groups (by decide) (by decide)).andThen rfl)
  | timer => exact hrest ((reads_groups (by decide) (by decide)).andThen rfl)

theorem decode_encode (c : SystemConfig) : decode c.encode = .ok c := by
  rw [decode, c.reads.decode_self]
  rfl

theorem length_encode_le (c : SystemConfig) : c.encode.length ≤ payloadCapacity := by
  obtain ⟨mode, interval, enabled, telemetry⟩ := c
  have hinterval : (writeUInt32 interval).length ≤ 5 := length_writeWord_le interval.toNat_lt
  have htelemetry : (writeUInt32 telemetry).length ≤ 5 := length_writeWord_le telemetry.toNat_lt
  have hmode : ∀ n, n < 2 → (word.write n).length ≤ 5 := fun n hn =>
    length_writeWord_le (Nat.lt_trans hn (by decide))
  cases mode with
  | polling =>
    have hpolling := hmode 0 (by decide)
    simp only [encode, List.length_append, writeBool, List.length_singleton, payloadCapacity]
    omega
  | timer =>
    have htimer := hmode 1 (by decide)
    simp only [encode, List.length_append, writeBool, List.length_singleton, payloadCapacity]
    omega

/-- The record that is stored of a configuration. -/
def stored (c : SystemConfig) : Record :=
  ⟨recordKind, .unassigned, .unassigned, .unassigned, recordName, ⟨c.encode, c.length_encode_le⟩⟩

theorem record_eq (c : SystemConfig) : c.record = .ok c.stored := by
  rw [record, Block.fit_of_le c.length_encode_le, Record.payloadOf_ofBytes c.length_encode_le]
  rfl

end SystemConfig

/-! ## Loading and saving -/

namespace ConfigStore

/-- **How loading the configuration can end**, by what the medium answers.  Only what is there and
cannot be read, decoded or accepted is an error. -/
inductive Loading : Except StorageError Block → Except ConfigError SystemConfig → Prop
  | absent : Loading (.error .notFound) (.ok .default)
  | unreadable {e : StorageError} (he : e ≠ .notFound) : Loading (.error e) (.error .ioError)
  | overlong {block : Block} (hclaim : block.contents? recordCapacity = none) :
      Loading (.ok block) (.error .corrupted)
  | garbled {block : Block} {bytes : List UInt8} {e : CodecError}
      (hbytes : block.contents? recordCapacity = some bytes)
      (hrecord : Record.decode bytes = .error e) : Loading (.ok block) (.error .corrupted)
  | foreign {block : Block} {bytes : List UInt8} {r : Record}
      (hbytes : block.contents? recordCapacity = some bytes) (hrecord : Record.decode bytes = .ok r)
      (hkind : r.kind ≠ SystemConfig.recordKind) : Loading (.ok block) (.ok .default)
  | undecodable {block : Block} {bytes : List UInt8} {r : Record} {e : CodecError}
      (hbytes : block.contents? recordCapacity = some bytes) (hrecord : Record.decode bytes = .ok r)
      (hkind : r.kind = SystemConfig.recordKind)
      (hconfig : SystemConfig.decode r.payload.val = .error e) :
      Loading (.ok block) (.error .corrupted)
  | rejected {block : Block} {bytes : List UInt8} {r : Record} {c : SystemConfig} {e : ConfigError}
      (hbytes : block.contents? recordCapacity = some bytes) (hrecord : Record.decode bytes = .ok r)
      (hkind : r.kind = SystemConfig.recordKind)
      (hconfig : SystemConfig.decode r.payload.val = .ok c) (hinvalid : c.validate = .error e) :
      Loading (.ok block) (.error e)
  | accepted {block : Block} {bytes : List UInt8} {r : Record} {c : SystemConfig}
      (hbytes : block.contents? recordCapacity = some bytes) (hrecord : Record.decode bytes = .ok r)
      (hkind : r.kind = SystemConfig.recordKind)
      (hconfig : SystemConfig.decode r.payload.val = .ok c) (hvalid : c.validate = .ok ()) :
      Loading (.ok block) (.ok c)

theorem Loading.valid {found : Except StorageError Block} {c : SystemConfig}
    (h : Loading found (.ok c)) : c.validate = .ok () := by
  cases h with
  | absent => exact SystemConfig.validate_eq_ok_iff.mpr SystemConfig.sensible_default
  | foreign _ _ _ => exact SystemConfig.validate_eq_ok_iff.mpr SystemConfig.sensible_default
  | accepted _ _ _ _ hvalid => exact hvalid

/-- The configuration in what was found under the key of the system. -/
def configOf : Except Fault (Option Record) → Except ConfigError SystemConfig
  | .error (.codec _) => .error .corrupted
  | .error _ => .error .ioError
  | .ok none => .ok .default
  | .ok (some r) =>
    if r.kind = SystemConfig.recordKind then
      match SystemConfig.decode r.payload.val with
      | .error _ => .error .corrupted
      | .ok config => config.validate.map fun _ => config
    else
      .ok .default

theorem loading_configOf (given : Except StorageError Block) :
    Loading given (configOf (recordOf given)) := by
  have hfound := found_recordOf given
  generalize recordOf given = found at hfound ⊢
  cases hfound with
  | absent => exact .absent
  | unreadable he => exact .unreadable he
  | overlong hclaim => exact .overlong (if_neg (Nat.not_le_of_lt hclaim))
  | garbled hbytes hrecord => exact .garbled hbytes hrecord
  | record hbytes hrecord =>
    rw [configOf]
    split
    · next hkind =>
      split
      · next hconfig => exact .undecodable hbytes hrecord hkind hconfig
      · next c hconfig =>
        cases hvalid : c.validate with
        | error e => exact .rejected hbytes hrecord hkind hconfig hvalid
        | ok _ => exact .accepted hbytes hrecord hkind hconfig hvalid
    · next hkind => exact .foreign hbytes hrecord hkind

variable {τ : Type} [Storage τ]

/-- What is loaded depends on the record that is found, and on nothing else. -/
theorem loadConfig_eq (s : ConfigStore τ) :
    (s.loadConfig).1 = configOf (s.readRecord SystemConfig.recordKey).1 := by
  rw [loadConfig]
  rcases s.readRecord SystemConfig.recordKey with ⟨fault | _ | r, journal⟩
  · cases fault <;> rfl
  · rfl
  · dsimp only [configOf]
    split
    · cases SystemConfig.decode r.payload.val <;> rfl
    · rfl

theorem loading (s : ConfigStore τ) :
    Loading (Storage.read s.storage s.space SystemConfig.recordKey recordCapacity).1
      (s.loadConfig).1 := by
  rw [loadConfig_eq]
  exact loading_configOf _

/-- What is refused is not written. -/
theorem saveConfig_of_invalid {c : SystemConfig} {e : ConfigError} (h : c.validate = .error e)
    (s : ConfigStore τ) : s.saveConfig c = ⟨.error e, s, []⟩ := by
  rw [saveConfig, h]

/-- What is accepted is written in its record. -/
theorem saveConfig_of_valid {c : SystemConfig} (h : c.validate = .ok ()) (s : ConfigStore τ) :
    (s.saveConfig c).answer =
        (s.writeRecord SystemConfig.recordKey c.stored).answer.mapError (fun _ => .ioError) ∧
      (s.saveConfig c).state = (s.writeRecord SystemConfig.recordKey c.stored).state := by
  rw [saveConfig, h]
  simp only [c.record_eq, and_self]

/-- Of its own record a configuration is loaded. -/
theorem configOf_stored {c : SystemConfig} (hvalid : c.validate = .ok ()) :
    configOf (.ok (some c.stored)) = .ok c := by
  have hpayload : SystemConfig.decode c.stored.payload.val = .ok c := c.decode_encode
  have hkind : c.stored.kind = SystemConfig.recordKind := rfl
  simp only [configOf, if_pos hkind, hpayload, hvalid]
  rfl

/-- **The main loop is only ever set up with a configuration that makes sense.**  Loading ends as
`Loading` says, whatever the medium answers and whatever the bytes are, and what it gives is
accepted by the check; so is the default, which is used where it gives nothing.  A configuration
that is not accepted is not written at all.  One that is accepted is written, with the answer of the
medium, and over a medium that returns what was written, loading gives just that one again. -/
theorem only_sensible_configs (s : ConfigStore τ) :
    (∀ c : SystemConfig, c.validate = .ok () ↔ c.Sensible) ∧
    Loading (Storage.read s.storage s.space SystemConfig.recordKey recordCapacity).1
      (s.loadConfig).1 ∧
    (∀ c, (s.loadConfig).1 = .ok c → c.validate = .ok ()) ∧
    ((s.loadConfig).1.toOption.getD .default).validate = .ok () ∧
    ∀ c : SystemConfig,
      (∀ e, c.validate = .error e → s.saveConfig c = ⟨.error e, s, []⟩) ∧
      (c.validate = .ok () →
        (s.saveConfig c).answer =
            (Storage.write s.storage s.space SystemConfig.recordKey c.stored.encode).answer.mapError
              (fun _ => .ioError) ∧
          (Storage.Exact s.storage → (s.saveConfig c).answer = .ok () →
            ((s.saveConfig c).state.loadConfig).1 = .ok c)) := by
  have hloading := s.loading
  have hvalid : ∀ c, (s.loadConfig).1 = .ok c → c.validate = .ok () :=
    fun c h => (h ▸ hloading).valid
  refine ⟨fun _ => SystemConfig.validate_eq_ok_iff, hloading, hvalid, ?_,
    fun c => ⟨fun e he => saveConfig_of_invalid he s, fun hc => ?_⟩⟩
  · cases hloaded : (s.loadConfig).1 with
    | error e => exact SystemConfig.validate_eq_ok_iff.mpr SystemConfig.sensible_default
    | ok c => exact hvalid c hloaded
  · obtain ⟨hanswer, hstate⟩ := saveConfig_of_valid hc s
    refine ⟨?_, fun hexact hok => ?_⟩
    · rw [hanswer, answer_writeRecord]
      cases (Storage.write s.storage s.space SystemConfig.recordKey c.stored.encode).answer <;> rfl
    · rw [hanswer, Except.mapError_eq_ok] at hok
      rw [loadConfig_eq, hstate, (recorded_writeRecord hexact _ _ hok).found]
      exact configOf_stored hc

/-- In place of bytes that are no record a slow configuration is stored and loaded, and one that is
too hasty is not stored. -/
theorem slow_config_replaces_garbage :
    let garbage : ConfigStore Memory :=
      ⟨⟨Table.empty.put (defaultSpace, SystemConfig.recordKey) [0xff, 0xff, 0xff, 0xff]⟩,
        defaultSpace⟩
    let hasty : SystemConfig := { SystemConfig.default with controlIntervalMs := 5 }
    let slow : SystemConfig := ⟨.polling, 60000, true, 60⟩
    (garbage.loadConfig).1 = .error .corrupted ∧
      (∃ e, hasty.validate = .error e ∧ garbage.saveConfig hasty = ⟨.error e, garbage, []⟩) ∧
      slow.validate = .ok () ∧ (garbage.saveConfig slow).answer = .ok () ∧
      ((garbage.saveConfig slow).state.loadConfig).1 = .ok slow := by
  intro garbage hasty slow
  obtain ⟨-, -, -, -, hconfigs⟩ := only_sensible_configs garbage
  have hhasty : hasty.validate =
      .error (.validationFailed "control_interval_ms must be 100–60000") := rfl
  have hslow : slow.validate = .ok () :=
    SystemConfig.validate_eq_ok_iff.mpr (by constructor <;> decide)
  obtain ⟨hanswer, hloaded⟩ := (hconfigs slow).2 hslow
  exact ⟨rfl, ⟨_, hhasty, (hconfigs hasty).1 _ hhasty⟩, hslow, hanswer,
    hloaded (Memory.exact _) hanswer⟩

end ConfigStore

end AquariumControl
