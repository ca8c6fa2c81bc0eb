import AquariumControl.Proofs.Truncation

/-!
# Loading what was saved

What a rule or a driver saves, another of its kind understands (`Understood`), so one fact about
loading is enough: what the very bytes are loaded as.  Bytes behind them change nothing, and just
they are used up (`Understood.reloaded`).

* `StandardRule.rules_are_reloaded` — a rule comes back with all its parameters, less the ids that
  no registry has; if it had none of those, it saves the same bytes again.
* `drivers_are_reloaded_unless_offset_not_finite` — dimmers and contacts come back with their
  parameter, and a probe does just if its offset is finite.

Dimmers and probes both check what they load, but only a dimmer checks what it is set to
(`Dimmer.Made.isDuty`).  A probe can be given an offset that it will not take back.
-/

set_option autoImplicit false

namespace AquariumControl

open Wire

/-- Saving writes these bytes wherever they fit, and loading takes just them from the front of any
others. -/
structure Reloaded {β : Type} (bytes : List UInt8) (save : Nat → Except CodecError Block)
    (load : List UInt8 → Except CodecError (β × Nat)) (loaded : β) : Prop where
  saved : ∀ capacity, bytes.length ≤ capacity → save capacity = .ok (Block.ofBytes bytes)
  loaded : ∀ rest, load (bytes ++ rest) = .ok (loaded, bytes.length)

theorem Understood.reloaded {β : Type} {bytes : List UInt8}
    {load : List UInt8 → Except CodecError (β × Nat)} (h : Understood bytes load)
    {save : Nat → Except CodecError Block}
    (hsave : ∀ capacity, save capacity = Block.fit capacity bytes) {loaded : β} {used : Nat}
    (hok : load bytes = .ok (loaded, used)) : Reloaded bytes save load loaded := by
  have hmeasured := h.measured hsave
  have henough : load bytes ≠ .error .bufferTooSmall := by
    rw [hok]
    exact fun h => nomatch h
  obtain ⟨α, r, a, -, hreads, hfeeds⟩ := h
  refine ⟨hmeasured.fits, fun rest => ?_⟩
  rw [hmeasured.extended bytes henough, hok, hfeeds.used hreads hok]

/-! ## Rules -/

namespace StandardRule

/-- The bytes are made of the parameters. -/
theorem encode_congr {rule rule' : StandardRule} (h : rule'.parameters = rule.parameters) :
    rule'.encode = rule.encode := by
  cases alike_of_parameters h with
  | thermostat r r' => exact congrArg Thermostat.Stored.encode (RuleParameters.thermostat.inj h)
  | topUp r r' =>
    obtain ⟨hsensor, hlow, hhigh, htimeout⟩ := RuleParameters.topUp.inj h
    simp only [encode, TopUp.encode, hsensor, hlow, hhigh, htimeout]
  | schedule r r' =>
    have htimers : ∀ s : Schedule, s.encode = (s.channels.map Channel.timer).toList.flatMap
        fun t => (StoredTimer.ofTimer t).encode := by
      intro s
      rw [Vector.toList_map, List.flatMap_map, Schedule.encode]
    have hsame : r'.channels.map Channel.timer = r.channels.map Channel.timer :=
      RuleParameters.schedule.inj h
    rw [encode, encode, htimers, htimers, hsame]

/-- **A rule comes back as it was saved.**  Its bytes fit into every record; any rule of its kind
loads them, whatever follows, uses up just them, and has the parameters of the first afterwards, bit
for bit, less the ids that no registry has.  If none is left out, it saves the same bytes. -/
theorem rules_are_reloaded (rule : StandardRule) :
    rule.encode.length ≤ payloadCapacity ∧
    ∀ rule' : StandardRule, Rule.kind rule' = Rule.kind rule →
      ∃ loaded, Reloaded rule.encode (Rule.save rule) (Rule.load rule') loaded ∧
        Rule.kind loaded = Rule.kind rule ∧ loaded.parameters = rule.parameters.confined ∧
        (rule.parameters.confined = rule.parameters →
          ∀ capacity, Rule.save loaded capacity = Rule.save rule capacity) := by
  refine ⟨rule.length_encode_le, fun rule' hkind => ?_⟩
  obtain ⟨loaded, used, hok, hloaded, hparameters⟩ := load_encode hkind
  refine ⟨loaded, (understood hkind).reloaded rule.save_eq_fit hok, hloaded, hparameters,
    fun hconfined capacity => ?_⟩
  rw [save_eq_fit, save_eq_fit, encode_congr (hparameters.trans hconfined)]

/-- A heating thermostat with a threshold that is no number loses the heater that no registry has,
and nothing else; a top-up rule saves the same bytes again. -/
theorem rules_are_reloaded_without_heater :
    let thermostat : Thermostat := { Thermostat.default with
      low := ⟨0x7ff8000000000001⟩, heater := .ofNat 30, cooler := .ofNat 5, state := .heating }
    let topUp : TopUp := ⟨.ofNat 7, 300, 3, 30, .timedOut, 0⟩
    (∃ loaded : StandardRule,
      Rule.load (StandardRule.thermostat Thermostat.default)
        ((StandardRule.thermostat thermostat).encode ++ [0xff]) = .ok (loaded, 37) ∧
      loaded.parameters =
        (StandardRule.thermostat { thermostat with heater := .unassigned }).parameters) ∧
    Rule.save (StandardRule.topUp topUp) 5 =
      .ok (Block.ofBytes [0x07, 0xac, 0x02, 0x03, 0x1e]) ∧
    ∃ loaded : StandardRule,
      Rule.load (StandardRule.topUp TopUp.default) [0x07, 0xac, 0x02, 0x03, 0x1e, 0xff] =
        .ok (loaded, 5) ∧
      Rule.save loaded 5 = Rule.save (StandardRule.topUp topUp) 5 := by
  intro thermostat topUp
  constructor
  · obtain ⟨loaded, hreloaded, -, hparameters, -⟩ :=
      (rules_are_reloaded (.thermostat thermostat)).2 (.thermostat Thermostat.default) rfl
    have hlength : (StandardRule.thermostat thermostat).encode.length = 37 :=
      thermostat.stored.length_encode
    exact ⟨loaded, hlength ▸ hreloaded.loaded [0xff], hparameters⟩
  · obtain ⟨loaded, hreloaded, -, -, hsame⟩ :=
      (rules_are_reloaded (.topUp topUp)).2 (.topUp TopUp.default) rfl
    have hbytes : (StandardRule.topUp topUp).encode = [0x07, 0xac, 0x02, 0x03, 0x1e] := by decide
    rw [hbytes] at hreloaded
    exact ⟨hreloaded.saved 5 (by decide), loaded, hreloaded.loaded [0xff], hsame rfl 5⟩

end StandardRule

/-! ## Drivers -/

theorem Dimmer.load_duty {d : Dimmer} (h : isDuty d.duty = true) (d' : Dimmer) :
    d'.load (writeBinary d.duty) = .ok ({ d' with duty := d.duty }, 4) := by
  have hreads := (reads_binary (f := Format.single) (by decide) d.duty).decode_self
  simp only [load, hreads, h, if_true, length_writeBinary]
  rfl

theorem Contact.load_activeLow (c c' : Contact) :
    c'.load (writeBool c.activeLow) = .ok ({ c' with activeLow := c.activeLow }, 1) := by
  simp only [load, (reads_bool c.activeLow).decode_self]
  rfl

theorem Thermistor.load_offset (t t' : Thermistor) (rest : List UInt8) :
    t'.load (writeBinary t.offset ++ rest) =
      if t.offset.isFinite then .ok ({ t' with offset := t.offset }, 8) else .error .invalid := by
  have hreads := (reads_binary (f := Format.double) (by decide) t.offset).decode rest
  simp only [load, hreads, length_writeBinary]
  rfl

/-- **What a driver has saved it can load, unless it is an offset that is not finite.**  However a
dimmer has come about, it saves its duty, and any dimmer takes it over from those bytes and uses up
just them; so does any contact the active level of another.  A probe saves whatever offset it was
set to, and any probe takes it over just if it is finite, and otherwise refuses it. -/
theorem drivers_are_reloaded_unless_offset_not_finite {d : Dimmer} (hmade : d.Made) (d' : Dimmer)
    (c c' : Contact) (t t' : Thermistor) :
    Reloaded (writeBinary d.duty) (Actuator.save d) (Actuator.load d')
      { d' with duty := d.duty } ∧
    Reloaded (writeBool c.activeLow) (Sensor.save c) (Sensor.load c')
      { c' with activeLow := c.activeLow } ∧
    (∀ capacity, 8 ≤ capacity →
      Sensor.save t capacity = .ok (Block.ofBytes (writeBinary t.offset))) ∧
    (Reloaded (writeBinary t.offset) (Sensor.save t) (Sensor.load t')
      { t' with offset := t.offset } ↔ t.offset.isFinite = true) ∧
    (t.offset.isFinite = false →
      ∀ rest, Sensor.load t' (writeBinary t.offset ++ rest) = .error .invalid) := by
  have hload : ∀ rest, Sensor.load t' (writeBinary t.offset ++ rest) =
      if t.offset.isFinite then .ok ({ t' with offset := t.offset }, 8) else .error .invalid :=
    t.load_offset t'
  have hlength : (writeBinary t.offset).length = 8 := length_writeBinary t.offset
  have hsave : ∀ capacity, 8 ≤ capacity →
      Sensor.save t capacity = .ok (Block.ofBytes (writeBinary t.offset)) :=
    fun capacity hle => Block.fit_of_le (Nat.le_trans (Nat.le_of_eq hlength) hle)
  refine ⟨(d.understood d').reloaded (fun _ => rfl) (Dimmer.load_duty hmade.isDuty d'),
    (c.understood c').reloaded (fun _ => rfl) (c.load_activeLow c'), hsave, ⟨fun h => ?_,
      fun hfinite => ⟨fun capacity hle => ?_, fun rest => ?_⟩⟩, fun hnot rest => ?_⟩
  · have hloaded := h.loaded []
    rw [hload] at hloaded
    cases hfinite : t.offset.isFinite with
    | true => rfl
    | false =>
      rw [hfinite] at hloaded
      cases hloaded
  · exact hsave capacity (hlength ▸ hle)
  · rw [hload, if_pos hfinite, hlength]
  · rw [hload, hnot]
    rfl

/-- A dimmer that was created and then set to what is no number has duty 0, which any other dimmer
takes over; so does a probe a finite offset. -/
theorem dimmer_set_to_nan_is_reloaded :
    let line : Line := ⟨false, 0, 1000, false, 0⟩
    let created : Dimmer := ⟨{ line with writes := 1 }, Binary32.one, false⟩
    let dimmer : Dimmer := (created.setPwm ⟨0x7fc00000⟩).2
    let probe : Thermistor := ⟨.channel 8, ⟨0xbfe0000000000000⟩⟩
    dimmer.Made ∧
      Actuator.save dimmer 4 = .ok (Block.ofBytes [0x00, 0x00, 0x00, 0x00]) ∧
      Actuator.load created [0x00, 0x00, 0x00, 0x00, 0xff] =
        .ok ({ created with duty := Binary.zero }, 4) ∧
      Sensor.load (Thermistor.create (.channel 8)) (writeBinary probe.offset ++ [0xff]) =
        .ok (probe, 8) := by
  intro line created dimmer probe
  have hraw : Dimmer.rawDuty Binary.zero line.maxDuty = 0 := by decide
  have hcreate : Dimmer.create line = .ok created :=
    Dimmer.create_eq (congrArg line.setDuty? hraw)
  have hmade : dimmer.Made := .setPwm (.create hcreate) _
  obtain ⟨hreloaded, -, -, hprobe, -⟩ := drivers_are_reloaded_unless_offset_not_finite hmade created
    ⟨line, true⟩ ⟨line, false⟩ probe (Thermistor.create (.channel 8))
  have hduty : dimmer.duty = Binary.zero := by decide
  rw [hduty, show writeBinary (Binary.zero : Binary32) = [0x00, 0x00, 0x00, 0x00] by decide]
    at hreloaded
  exact ⟨hmade, hreloaded.saved 4 (by decide), hreloaded.loaded [0xff],
    (hprobe.mpr (by decide)).loaded [0xff]⟩

/-- A probe saves an infinite offset, and no probe loads it: not everything that is saved is taken
back. -/
theorem infinite_offset_is_refused :
    let probe : Thermistor := { Thermistor.create (.channel 8) with offset := ⟨0x7ff0000000000000⟩ }
    let bytes : List UInt8 := [0x00, 0x00, 0x00, 0x00, 0x00, 0x00, 0xf0, 0x7f]
    Sensor.save probe 8 = .ok (Block.ofBytes bytes) ∧
      (∀ other : Thermistor, Sensor.load other bytes = .error .invalid) ∧
      ¬ ∀ t t' : Thermistor, ∃ saved, Sensor.save t 8 = .ok (Block.ofBytes saved) ∧
        Sensor.load t' saved = .ok ({ t' with offset := t.offset }, saved.length) := by
  intro probe bytes
  have hsave : Sensor.save probe 8 = .ok (Block.ofBytes bytes) := by
    have hbytes : writeBinary probe.offset = bytes := by decide
    exact (congrArg (Block.fit 8) hbytes).trans (Block.fit_of_le (by decide))
  have hload : ∀ other : Thermistor, Sensor.load other bytes = .error .invalid := fun _ => rfl
  refine ⟨hsave, hload, fun hall => ?_⟩
  obtain ⟨saved, hsaved, hloaded⟩ := hall probe probe
  rw [hsave] at hsaved
  have hsame : bytes = saved := congrArg Block.written (Except.ok.inj hsaved)
  rw [← hsame, hload] at hloaded
  cases hloaded

end AquariumControl
