import AquariumControl.Bench.Probe
import AquariumControl.Bench.Relay
import AquariumControl.Proofs.Saving

/-!
# Bytes that end too early

A reader takes bytes from the front, so there are two ways in which more of them can matter: they
are left over, or the reader had too few.  `Reader.Steady` says that there is no third.  It holds of
every field and of whatever is made of fields (`Steady.bind`), on any bytes at all.

Loading is reading followed by a judgement of what was read (`Reader.Feeds`), so the same is true
of everything that is loaded:

* `Feeds.append` — what has been loaded or refused is so whatever follows;
* `Feeds.take` — less than what was written is always found to be too little, never to be wrong;
* `Feeds.whole` — all of what was written is never found to be too little.

`Measured` puts that together with the capacity that saving needs, and
`missing_bytes_are_reported` goes through the stored forms.
-/

set_option autoImplicit false

namespace AquariumControl

open Wire

/-! ## Steady readers -/

namespace Reader

variable {α β : Type}

/-- If there were enough bytes, more of them are left over and change nothing. -/
def Steady (r : Reader α) : Prop :=
  ∀ bytes more, r.run bytes ≠ .error .bufferTooSmall →
    r.run (bytes ++ more) = (r.run bytes).map fun read => (read.1, read.2 ++ more)

theorem steady_pure (a : α) : Steady (pure a) := fun _ _ _ => rfl

theorem steady_fail (e : CodecError) : Steady (fail e : Reader α) := fun _ _ _ => rfl

/-- One field after the other. -/
theorem Steady.bind {r : Reader α} (hr : r.Steady) {next : α → Reader β}
    (hnext : ∀ a, (next a).Steady) : Steady (r >>= next) := by
  intro bytes more henough
  rw [StateT.run_bind] at henough
  have hrun : r.run bytes ≠ .error .bufferTooSmall := by
    intro h
    rw [h] at henough
    exact henough rfl
  have hfirst := hr bytes more hrun
  rw [StateT.run_bind, StateT.run_bind, hfirst]
  cases hread : r.run bytes with
  | error e => rfl
  | ok read =>
    rw [hread] at henough
    exact hnext read.1 read.2 more henough

theorem Steady.decode_append {r : Reader α} (hr : r.Steady) {bytes : List UInt8}
    (henough : r.decode bytes ≠ .error .bufferTooSmall) (more : List UInt8) :
    r.decode (bytes ++ more) = r.decode bytes := by
  have hrun : r.run bytes ≠ .error .bufferTooSmall := by
    intro h
    rw [decode, h] at henough
    exact henough rfl
  rw [decode, decode, hr bytes more hrun]
  cases r.run bytes with
  | error e => rfl
  | ok read => simp only [Except.map, List.length_append, Nat.add_sub_add_right]

/-- Less than what was written is too little: had it been enough, bytes would be left over. -/
theorem Steady.decode_take {r : Reader α} (hr : r.Steady) {bytes : List UInt8} {a : α}
    (hreads : r.Reads bytes a) {n : Nat} (hn : n < bytes.length) :
    r.decode (bytes.take n) = .error .bufferTooSmall := by
  have hwhole : r.run (bytes.take n ++ bytes.drop n) = .ok (a, []) := by
    have h := hreads []
    rwa [List.append_nil, ← List.take_append_drop n bytes] at h
  have hshort : r.run (bytes.take n) = .error .bufferTooSmall := by
    refine Classical.byContradiction fun henough => ?_
    rw [hr _ _ henough] at hwhole
    obtain ⟨read, -, hread⟩ := Except.map_eq_ok hwhole
    have hdrop : bytes.drop n = [] := (List.append_eq_nil_iff.mp (Prod.mk.inj hread).2).2
    have hlength := List.length_drop (l := bytes) (i := n)
    rw [hdrop, List.length_nil] at hlength
    omega
  rw [decode, hshort]

end Reader

open Reader

/-! ## Every field is steady -/

namespace Wire

theorem steady_byte : readByte.Steady
  | [], _, henough => absurd rfl henough
  | _ :: _, _, _ => rfl

theorem steady_bytes (n : Nat) : (readBytes n).Steady := by
  intro bytes more henough
  change readBytes n bytes ≠ _ at henough
  change readBytes n (bytes ++ more) = (readBytes n bytes).map _
  by_cases hshort : bytes.length < n
  · rw [readBytes, if_pos hshort] at henough
    exact absurd rfl henough
  · have hlong : ¬(bytes ++ more).length < n := by
      rw [List.length_append]
      omega
    have hn : n ≤ bytes.length := Nat.le_of_not_lt hshort
    rw [readBytes, readBytes, if_neg hshort, if_neg hlong, List.take_append_of_le_length hn,
      List.drop_append_of_le_length hn]
    rfl

theorem steady_bool : readBool.Steady := by
  refine steady_byte.bind fun b => ?_
  split
  · exact steady_pure _
  · split
    · exact steady_pure _
    · exact steady_fail _

theorem steady_slotId : readSlotId.Steady := steady_byte.bind fun _ => steady_pure _

theorem steady_groups (last : Nat) : ∀ bytes, (readGroups last bytes).Steady
  | 0 => steady_fail _
  | bytes + 1 => by
    refine steady_byte.bind fun b => ?_
    split
    · split
      · exact steady_fail _
      · exact steady_pure _
    · exact (steady_groups last bytes).bind fun _ => steady_pure _

theorem steady_extent (e : Extent) : e.read.Steady := steady_groups e.last e.bytes

theorem steady_uint16 : readUInt16.Steady := (steady_extent short).bind fun _ => steady_pure _

theorem steady_binary (f : Format) : (readBinary f).Steady :=
  (steady_bytes _).bind fun _ => steady_pure _

theorem steady_vector {α : Type} {r : Reader α} (hr : r.Steady) : ∀ n, (readVector r n).Steady
  | 0 => steady_pure _
  | n + 1 => (steady_vector hr n).bind fun _ => hr.bind fun _ => steady_pure _

theorem steady_text : readText.Steady := by
  refine (steady_extent size).bind fun n => (steady_bytes n).bind fun bytes => ?_
  split
  · exact steady_pure _
  · exact steady_fail _

theorem steady_block (capacity : Nat) : (readBlock capacity).Steady := by
  refine (steady_extent size).bind fun n => (steady_bytes _).bind fun bytes => ?_
  split
  · exact steady_pure _
  · exact steady_fail _

end Wire

/-! ## So is what is made of fields -/

theorem Record.steady_readName : readName.Steady := by
  refine steady_text.bind fun s => ?_
  split
  · exact steady_pure _
  · exact steady_fail _

theorem Record.steady_read : Record.read.Steady :=
  steady_byte.bind fun _ => steady_slotId.bind fun _ => steady_slotId.bind fun _ =>
    steady_slotId.bind fun _ => steady_readName.bind fun _ => (steady_block _).bind fun _ =>
      steady_pure _

theorem Thermostat.Stored.steady_read : Thermostat.Stored.read.Steady :=
  steady_slotId.bind fun _ => (steady_binary _).bind fun _ => (steady_binary _).bind fun _ =>
    steady_slotId.bind fun _ => (steady_binary _).bind fun _ => (steady_binary _).bind fun _ =>
      steady_slotId.bind fun _ => steady_bool.bind fun _ => steady_bool.bind fun _ =>
        steady_pure _

theorem TopUp.steady_readSettings : TopUp.readSettings.Steady :=
  steady_slotId.bind fun _ => steady_uint16.bind fun _ => steady_uint16.bind fun _ =>
    steady_uint16.bind fun _ => steady_pure _

theorem StoredTimer.steady_read : StoredTimer.read.Steady :=
  steady_slotId.bind fun _ => steady_byte.bind fun _ =>
    (steady_vector (steady_uint16.bind fun _ => steady_uint16.bind fun _ => steady_pure _) _).bind
      fun _ => steady_bool.bind fun _ => steady_pure _

/-! ## Loading -/

/-- Loading is reading first and then judging what was read, whatever bytes it was read from.  What
does not pass is invalid; that there are too few bytes is for the reader to say. -/
def Reader.Feeds {α β : Type} (r : Reader α)
    (load : List UInt8 → Except CodecError (β × Nat)) : Prop :=
  ∃ judge : α → Option β, ∀ bytes,
    load bytes = match r.decode bytes with
      | .error e => .error e
      | .ok (a, used) => (judge a).elim (.error .invalid) fun b => .ok (b, used)

namespace Reader.Feeds

variable {α β γ : Type} {r : Reader α} {load : List UInt8 → Except CodecError (β × Nat)}

theorem map (h : r.Feeds load) (f : β → γ) :
    r.Feeds fun bytes => (load bytes).map fun loaded => (f loaded.1, loaded.2) := by
  obtain ⟨judge, hload⟩ := h
  refine ⟨fun a => (judge a).map f, fun bytes => ?_⟩
  simp only [hload bytes]
  cases r.decode bytes with
  | error e => rfl
  | ok read =>
    dsimp only
    cases judge read.1 <;> rfl

/-- What has been loaded or refused is so whatever follows. -/
theorem append (h : r.Feeds load) (hr : r.Steady) {bytes : List UInt8}
    (henough : load bytes ≠ .error .bufferTooSmall) (more : List UInt8) :
    load (bytes ++ more) = load bytes := by
  obtain ⟨judge, hload⟩ := h
  have hdecode : r.decode bytes ≠ .error .bufferTooSmall := by
    intro hshort
    rw [hload, hshort] at henough
    exact henough rfl
  rw [hload, hload, hr.decode_append hdecode]

/-- Less than what was written is too little. -/
theorem take (h : r.Feeds load) (hr : r.Steady) {bytes : List UInt8} {a : α}
    (hreads : r.Reads bytes a) {n : Nat} (hn : n < bytes.length) :
    load (bytes.take n) = .error .bufferTooSmall := by
  obtain ⟨judge, hload⟩ := h
  rw [hload, hr.decode_take hreads hn]

/-- All of what was written is enough. -/
theorem whole (h : r.Feeds load) {bytes : List UInt8} {a : α} (hreads : r.Reads bytes a)
    (more : List UInt8) : load (bytes ++ more) ≠ .error .bufferTooSmall := by
  obtain ⟨judge, hload⟩ := h
  rw [hload, hreads.decode]
  dsimp only
  cases judge a with
  | none => exact fun h => nomatch h
  | some b => exact fun h => nomatch h

/-- What was written is used up, and no more than that. -/
theorem used (h : r.Feeds load) {bytes : List UInt8} {a : α} (hreads : r.Reads bytes a)
    {loaded : β} {n : Nat} (hok : load bytes = .ok (loaded, n)) : n = bytes.length := by
  obtain ⟨judge, hload⟩ := h
  rw [hload, hreads.decode_self] at hok
  dsimp only at hok
  cases hjudge : judge a with
  | none =>
    rw [hjudge] at hok
    cases hok
  | some b =>
    rw [hjudge] at hok
    exact (Prod.mk.inj (Except.ok.inj hok)).2.symm

end Reader.Feeds

theorem Reader.feeds_decode {α : Type} (r : Reader α) : r.Feeds r.decode := by
  refine ⟨some, fun bytes => ?_⟩
  cases r.decode bytes <;> rfl

/-- Where nothing is stored, nothing is read. -/
theorem Reader.feeds_nothing {β : Type} (b : β) :
    (pure () : Reader Unit).Feeds fun _ => .ok (b, 0) := by
  refine ⟨fun _ => some b, fun bytes => ?_⟩
  have hdecode : (pure () : Reader Unit).decode bytes = .ok ((), 0) := by
    rw [decode, ← Nat.sub_self bytes.length]
    rfl
  rw [hdecode]
  rfl

theorem Thermostat.feeds_load : Thermostat.Stored.read.Feeds Thermostat.load := by
  refine ⟨fun s => (stateOf? s.heating s.cooling).map fun state =>
    ⟨s.sensor.within sensorCapacity, s.low, s.heatHysteresis, s.heater.within actuatorCapacity,
      s.high, s.coolHysteresis, s.cooler.within actuatorCapacity, state, false⟩, fun bytes => ?_⟩
  rw [load]
  cases Reader.decode Thermostat.Stored.read bytes with
  | error e => rfl
  | ok read =>
    dsimp only
    cases stateOf? read.1.heating read.1.cooling <;> rfl

theorem TopUp.feeds_load (r : TopUp) : TopUp.readSettings.Feeds r.load := by
  refine ⟨fun s => some { r with
    sensor := s.1.within sensorCapacity
    delayLow := s.2.1
    delayHigh := s.2.2.1
    timeout := s.2.2.2 }, fun bytes => ?_⟩
  rw [load]
  cases Reader.decode TopUp.readSettings bytes <;> rfl

theorem Schedule.feeds_load : (readVector StoredTimer.read timersPerSchedule).Feeds
    Schedule.load := by
  refine ⟨fun timers =>
    if timers.all StoredTimer.isValid then some ⟨timers.map fun t => ⟨t.timer, false⟩⟩ else none,
    fun bytes => ?_⟩
  rw [load]
  cases Reader.decode (readVector StoredTimer.read timersPerSchedule) bytes with
  | error e => rfl
  | ok read =>
    dsimp only
    split <;> rfl

theorem Dimmer.feeds_load (d : Dimmer) : (readBinary Format.single).Feeds d.load := by
  refine ⟨fun duty => if isDuty duty then some { d with duty := duty } else none,
    fun bytes => ?_⟩
  rw [load]
  cases Reader.decode (readBinary Format.single) bytes with
  | error e => rfl
  | ok read =>
    dsimp only
    split <;> rfl

theorem Contact.feeds_load (c : Contact) : readBool.Feeds c.load := by
  refine ⟨fun activeLow => some { c with activeLow := activeLow }, fun bytes => ?_⟩
  rw [load]
  cases Reader.decode readBool bytes <;> rfl

theorem Thermistor.feeds_load (t : Thermistor) : (readBinary Format.double).Feeds t.load := by
  refine ⟨fun offset => if offset.isFinite then some { t with offset := offset } else none,
    fun bytes => ?_⟩
  rw [load]
  cases Reader.decode (readBinary Format.double) bytes with
  | error e => rfl
  | ok read =>
    dsimp only
    split <;> rfl

/-! ## What is saved is understood -/

/-- The bytes are what a reader takes that feeds the loading. -/
def Understood {β : Type} (bytes : List UInt8)
    (load : List UInt8 → Except CodecError (β × Nat)) : Prop :=
  ∃ (α : Type) (r : Reader α) (a : α), r.Steady ∧ r.Reads bytes a ∧ r.Feeds load

theorem Understood.map {β γ : Type} {bytes : List UInt8}
    {load : List UInt8 → Except CodecError (β × Nat)} (h : Understood bytes load) (f : β → γ) :
    Understood bytes fun input => (load input).map fun loaded => (f loaded.1, loaded.2) := by
  obtain ⟨α, r, a, hsteady, hreads, hfeeds⟩ := h
  exact ⟨α, r, a, hsteady, hreads, hfeeds.map f⟩

/-- Where nothing is stored, nothing has to be understood. -/
theorem understood_nothing {β : Type} (b : β) : Understood [] fun _ => .ok (b, 0) :=
  ⟨Unit, pure (), (), steady_pure (), reads_pure (), feeds_nothing b⟩

theorem Thermostat.understood (r : Thermostat) : Understood r.stored.encode Thermostat.load :=
  ⟨_, _, _, Stored.steady_read, r.stored.reads, feeds_load⟩

theorem TopUp.understood (r r' : TopUp) : Understood r.encode r'.load :=
  ⟨_, _, _, steady_readSettings, r.reads_settings, r'.feeds_load⟩

theorem Schedule.understood (r : Schedule) : Understood r.encode Schedule.load :=
  ⟨_, _, _, steady_vector StoredTimer.steady_read _, r.reads_encode, feeds_load⟩

theorem Dimmer.understood (d d' : Dimmer) : Understood (writeBinary d.duty) d'.load :=
  ⟨_, _, _, steady_binary _, reads_binary (by decide) d.duty, d'.feeds_load⟩

theorem Contact.understood (c c' : Contact) : Understood (writeBool c.activeLow) c'.load :=
  ⟨_, _, _, steady_bool, reads_bool c.activeLow, c'.feeds_load⟩

theorem Thermistor.understood (t t' : Thermistor) : Understood (writeBinary t.offset) t'.load :=
  ⟨_, _, _, steady_binary _, reads_binary (by decide) t.offset, t'.feeds_load⟩

/-- Every rule understands what a rule of its kind saves, even where it then refuses it. -/
theorem StandardRule.understood {rule rule' : StandardRule}
    (hkind : Rule.kind rule' = Rule.kind rule) : Understood rule.encode (Rule.load rule') := by
  cases alike_of_kind hkind with
  | thermostat r r' => exact r.understood.map StandardRule.thermostat
  | topUp r r' => exact (r.understood r').map StandardRule.topUp
  | schedule r r' => exact r.understood.map StandardRule.schedule

theorem StandardOutput.understood {δ : Type} [Actuator δ] {output output' : StandardOutput δ}
    (hmake : output'.make = output.make) :
    Understood output.encode (Actuator.load output') := by
  cases alike_of_make hmake with
  | outlet o o' => exact understood_nothing (.outlet o' : StandardOutput δ)
  | dimmer d d' => exact (d.understood d').map StandardOutput.dimmer
  | other d d' => exact understood_nothing (.other d' : StandardOutput δ)

theorem StandardSensor.understood {σ : Type} [Sensor σ] {sensor sensor' : StandardSensor σ}
    (hmake : sensor'.make = sensor.make) : Understood sensor.encode (Sensor.load sensor') := by
  cases alike_of_make hmake with
  | contact c c' => exact (c.understood c').map StandardSensor.contact
  | thermistor t t' => exact (t.understood t').map StandardSensor.thermistor
  | other d d' => exact understood_nothing (.other d' : StandardSensor σ)

/-! ## Too few bytes in every stored form -/

/-- Saving needs room for all bytes; less than them is too little to load, all of them never are;
and only too little can become something else when more bytes follow, whatever the bytes are. -/
structure Measured {γ : Type} (bytes : List UInt8) (save : Nat → Except CodecError Block)
    (load : List UInt8 → Except CodecError γ) : Prop where
  fits : ∀ capacity, bytes.length ≤ capacity → save capacity = .ok (Block.ofBytes bytes)
  overflows : ∀ capacity, capacity < bytes.length → save capacity = .error .bufferTooSmall
  truncated : ∀ n, n < bytes.length → load (bytes.take n) = .error .bufferTooSmall
  whole : ∀ more, load (bytes ++ more) ≠ .error .bufferTooSmall
  extended : ∀ input, load input ≠ .error .bufferTooSmall →
    ∀ more, load (input ++ more) = load input

theorem Understood.measured {β : Type} {bytes : List UInt8}
    {load : List UInt8 → Except CodecError (β × Nat)} (h : Understood bytes load)
    {save : Nat → Except CodecError Block}
    (hsave : ∀ capacity, save capacity = Block.fit capacity bytes) : Measured bytes save load := by
  obtain ⟨α, r, a, hsteady, hreads, hfeeds⟩ := h
  refine ⟨fun capacity hle => ?_, fun capacity hlt => ?_, fun n hn => ?_, hfeeds.whole hreads,
    fun input henough => ?_⟩
  · rw [hsave, Block.fit_of_le hle]
  · rw [hsave, Block.fit, if_neg (Nat.not_le_of_lt hlt)]
  · exact hfeeds.take hsteady hreads hn
  · exact hfeeds.append hsteady henough

theorem Measured.map {γ γ' : Type} {bytes : List UInt8} {save : Nat → Except CodecError Block}
    {load : List UInt8 → Except CodecError γ} (h : Measured bytes save load) (f : γ → γ') :
    Measured bytes save fun input => (load input).map f := by
  have hmap : ∀ input, (load input).map f = .error .bufferTooSmall →
      load input = .error .bufferTooSmall := by
    intro input h
    cases hload : load input with
    | error e =>
      rw [hload] at h
      cases h
      rfl
    | ok loaded =>
      rw [hload] at h
      cases h
  refine ⟨h.fits, h.overflows, fun n hn => ?_, fun more hshort => h.whole more (hmap _ hshort),
    fun input henough more => ?_⟩
  · simp only [h.truncated n hn]
    rfl
  · have hload : load input ≠ .error .bufferTooSmall := by
      intro hshort
      simp only [hshort] at henough
      exact henough rfl
    simp only [h.extended input hload more]

namespace ConfigStore

variable {τ : Type} [Storage τ]

/-- What is stored under a label ends too early: within a record, or, in a record of the kind that
is looked for, within its parameters. -/
def CutOff (store : ConfigStore τ) (l : Label) (kind : UInt8) (parameters : List UInt8) : Prop :=
  (∃ r : Record, ∃ n, n < r.encode.length ∧
    (Storage.read store.storage store.space l.text recordCapacity).1 =
      .ok (Block.ofBytes (r.encode.take n))) ∨
  ∃ r : Record, ∃ n, n < parameters.length ∧ r.payload.val = parameters.take n ∧ r.kind = kind ∧
    (store.readRecord l.text).1 = .ok (some r)

/-- An object that is given less than what was stored of it is told so, and stays as it was. -/
theorem restore_of_cutOff {α : Type} {store : ConfigStore τ} {l : Label} {kind : UInt8}
    {parameters : List UInt8} (hcut : store.CutOff l kind parameters)
    {take : Record → Except CodecError α}
    (htake : ∀ r : Record, ∀ n, n < parameters.length → r.payload.val = parameters.take n →
      take r = .error .bufferTooSmall) (object : α) :
    (store.restore l kind take object).answer = .error (.codec .bufferTooSmall) ∧
      (store.restore l kind take object).state = object := by
  rcases hcut with ⟨r, n, hn, hread⟩ | ⟨r, n, hn, hpayload, hkind, hread⟩
  · -- the record is cut off, so that none is found
    have hlength : (r.encode.take n).length ≤ recordCapacity :=
      Nat.le_trans (List.length_take_le' n _) r.length_encode_le
    have hfound : (store.readRecord l.text).1 = .error (.codec .bufferTooSmall) := by
      rw [readRecord]
      simp only [hread, recordOf, Block.contents?_ofBytes hlength, Record.decode,
        Record.steady_read.decode_take r.reads hn]
      rfl
    simp only [restore, hfound, and_self]
  · -- a record is found, and the object refuses it
    simp only [restore, hread, hkind, if_true, htake r n hn hpayload, and_self]

end ConfigStore

/-- **Too few bytes are always reported as too few, and nothing else is.**  In every stored form
saving fails in just the buffers that are too short, of what was saved just the strict prefixes are
found to be cut off, and on any bytes at all what was loaded or refused stays so when more bytes
follow.  Nothing that is cut off changes the object that it was stored for. -/
theorem missing_bytes_are_reported {δ σ τ : Type} [Actuator δ] [Sensor σ] [Storage τ]
    (store : ConfigStore τ) (id : SlotId) :
    (∀ r : Record, Measured r.encode r.write Record.read.decode ∧
      Measured r.encode r.write Record.decode) ∧
    (∀ rule rule' : StandardRule, Rule.kind rule' = Rule.kind rule →
      Measured rule.encode (Rule.save rule) (Rule.load rule')) ∧
    (∀ output output' : StandardOutput δ, output'.make = output.make →
      Measured output.encode (Actuator.save output) (Actuator.load output')) ∧
    (∀ sensor sensor' : StandardSensor σ, sensor'.make = sensor.make →
      Measured sensor.encode (Sensor.save sensor) (Sensor.load sensor')) ∧
    (∀ (s : ControllerSlot StandardRule) (rule : StandardRule), Rule.kind s.rule = Rule.kind rule →
      store.CutOff ⟨.controller, id⟩ s.kind.tag rule.encode →
        (s.restore store id).answer = .error (.codec .bufferTooSmall) ∧
          (s.restore store id).state = s) ∧
    (∀ (s : ActuatorSlot (StandardOutput δ)) (output : StandardOutput δ),
      s.device.make = output.make → store.CutOff ⟨.actuator, id⟩ s.kind.tag output.encode →
        (s.restore store id).answer = .error (.codec .bufferTooSmall) ∧
          (s.restore store id).state = s) ∧
    ∀ (s : SensorSlot (StandardSensor σ)) (sensor : StandardSensor σ),
      s.device.make = sensor.make → store.CutOff ⟨.sensor, id⟩ s.kind.tag sensor.encode →
        (s.restore store id).answer = .error (.codec .bufferTooSmall) ∧
          (s.restore store id).state = s := by
  have hrules : ∀ rule rule' : StandardRule, Rule.kind rule' = Rule.kind rule →
      Measured rule.encode (Rule.save rule) (Rule.load rule') :=
    fun rule rule' hkind => (StandardRule.understood hkind).measured rule.save_eq_fit
  have houtputs : ∀ output output' : StandardOutput δ, output'.make = output.make →
      Measured output.encode (Actuator.save output) (Actuator.load output') :=
    fun output output' hmake => (StandardOutput.understood hmake).measured output.save_eq_fit
  have hsensors : ∀ sensor sensor' : StandardSensor σ, sensor'.make = sensor.make →
      Measured sensor.encode (Sensor.save sensor) (Sensor.load sensor') :=
    fun sensor sensor' hmake => (StandardSensor.understood hmake).measured sensor.save_eq_fit
  refine ⟨fun r => ?_, hrules, houtputs, hsensors, fun s rule hkind hcut => ?_,
    fun s output hmake hcut => ?_, fun s sensor hmake hcut => ?_⟩
  · have hread : Understood r.encode Record.read.decode :=
      ⟨_, _, _, Record.steady_read, r.reads, feeds_decode _⟩
    have hmeasured : Measured r.encode r.write Record.read.decode := hread.measured fun _ => rfl
    exact ⟨hmeasured, hmeasured.map Prod.fst⟩
  · refine store.restore_of_cutOff hcut (fun r n hn hpayload => ?_) s
    rw [ControllerSlot.take, hpayload, (hrules rule s.rule hkind).truncated n hn]
    rfl
  · refine store.restore_of_cutOff hcut (fun r n hn hpayload => ?_) s
    rw [ActuatorSlot.take, hpayload, (houtputs output s.device hmake).truncated n hn]
    rfl
  · refine store.restore_of_cutOff hcut (fun r n hn hpayload => ?_) s
    rw [SensorSlot.take, hpayload, (hsensors sensor s.device hmake).truncated n hn]
    rfl

/-- One object of each kind in place 0, and what is left of their records: that of the controller
ends before its name, those of the actuator and the sensor have lost the end of their parameters. -/
theorem missing_bytes_are_reported_torn :
    let line : Line := ⟨false, 0, 1000, false, 0⟩
    let topUp : StandardRule := .topUp ⟨.ofNat 2, 300, 3, 30, .ok, 0⟩
    let dimmer : StandardOutput Relay := .dimmer ⟨line, Binary32.one, false⟩
    let contact : StandardSensor Probe := .contact ⟨line, true⟩
    let controller : ControllerSlot StandardRule := ⟨Name.ofString "refill", .ofNat 0, topUp⟩
    let actuator : ActuatorSlot (StandardOutput Relay) :=
      ⟨Name.ofString "lamp", .ofNat 0, .unassigned, dimmer⟩
    let sensor : SensorSlot (StandardSensor Probe) := ⟨Name.ofString "float", .ofNat 0, contact⟩
    let refill : Record := controller.stored (.ofNat 0)
    let lamp : Record :=
      { actuator.stored (.ofNat 0) with payload := ⟨[0x00, 0x00, 0x80], by decide⟩ }
    let float : Record := { sensor.stored (.ofNat 0) with payload := ⟨[], by decide⟩ }
    let store : ConfigStore Memory := ⟨⟨⟨[(("config", "C0"), refill.encode.take 4),
      (("config", "A0"), lamp.encode), (("config", "S0"), float.encode)]⟩⟩, "config"⟩
    Rule.save topUp 5 = .ok (Block.ofBytes [0x02, 0xac, 0x02, 0x03, 0x1e]) ∧
      Rule.save topUp 4 = .error .bufferTooSmall ∧
      Rule.load topUp [0x02, 0xac] = .error .bufferTooSmall ∧
      Rule.load topUp ([0x02, 0xff, 0xff, 0x04] ++ [0x00]) = .error .invalid ∧
      Record.decode (refill.encode.take 4) = .error .bufferTooSmall ∧
      Actuator.load dimmer [0x00, 0x00, 0x80] = .error .bufferTooSmall ∧
      Sensor.load contact [] = .error .bufferTooSmall ∧
      (controller.restore store (.ofNat 0)).state = controller ∧
      (actuator.restore store (.ofNat 0)).state = actuator ∧
      (sensor.restore store (.ofNat 0)).state = sensor := by
  intro line topUp dimmer contact controller actuator sensor refill lamp float store
  obtain ⟨hrecords, hrules, houtputs, hsensors, hcontroller, hactuator, hsensor⟩ :=
    missing_bytes_are_reported (δ := Relay) (σ := Probe) store (.ofNat 0)
  have hrule := hrules topUp topUp rfl
  have henough : Rule.load topUp [0x02, 0xff, 0xff, 0x04] ≠ .error .bufferTooSmall :=
    fun h => nomatch h
  have hlong : 4 < refill.encode.length := by
    simp only [refill, Record.encode, writeSlotId, writeBlock, List.length_cons,
      List.length_append, List.length_nil, ControllerSlot.stored]
    have hpayload : controller.rule.encode.length = 5 := rfl
    omega
  have hfour : (refill.encode.take 4).length ≤ recordCapacity :=
    Nat.le_trans (List.length_take_le 4 _) (by decide)
  have htorn := Storage.copy_of_le hfour
  have hdimmer := (houtputs dimmer dimmer rfl).truncated 3 (by decide)
  rw [show dimmer.encode.take 3 = [0x00, 0x00, 0x80] by decide] at hdimmer
  have hlamp : (store.readRecord "A0").1 = .ok (some lamp) := ConfigStore.recordOf_copy lamp
  have hfloat : (store.readRecord "S0").1 = .ok (some float) := ConfigStore.recordOf_copy float
  exact ⟨hrule.fits 5 (by decide), hrule.overflows 4 (by decide), hrule.truncated 2 (by decide),
    hrule.extended _ henough _, (hrecords refill).2.truncated 4 hlong,
    hdimmer, (hsensors contact contact rfl).truncated 0 (by decide),
    (hcontroller controller topUp rfl (.inl ⟨refill, 4, hlong, htorn⟩)).2,
    (hactuator actuator dimmer rfl (.inr ⟨lamp, 3, by decide, by decide, rfl, hlamp⟩)).2,
    (hsensor sensor contact rfl (.inr ⟨float, 0, by decide, rfl, rfl, hfloat⟩)).2⟩

end AquariumControl
