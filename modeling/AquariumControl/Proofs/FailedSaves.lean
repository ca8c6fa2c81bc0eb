import AquariumControl.Bench.Probe
import AquariumControl.Bench.Relay
import AquariumControl.Bench.Script
import AquariumControl.Proofs.Keeping
import AquariumControl.Proofs.Restore

/-!
# What saving does when objects fail

An object can fail to write its parameters, claim to have written more than there is room for, or
meet a medium that refuses its record.  None of this leaves half a record, and none of it reaches
another object.

* `Saving` — the four ways in which saving one object can end.
* `Saves` — what saving some objects comes to: every one ends in one of these ways, by what was
  under its own key before, and no other key is touched.
* `Aquarium.exists_saves` — a pass over objects with distinct keys, by induction on the objects.
* `Aquarium.failures_stay_local` — the pass over an aquarium, with its counts and its events.
-/

set_option autoImplicit false

namespace AquariumControl

/-! ## One object -/

/-- **How saving one object can end**, by what it made of the buffer for its parameters: what is
under its key then, and the answer.  There is a complete record with the bytes that it claims, or
still what was there before. -/
inductive Saving (written : Except CodecError Block) (describe : Bytes payloadCapacity → Record)
    (before : Option (List UInt8)) : Option (List UInt8) → Except Fault Unit → Prop
  | kept {block : Block} {payload : Bytes payloadCapacity} {bytes : List UInt8}
      (hwritten : written = .ok block)
      (hclaimed : block.contents? payloadCapacity = some payload.val)
      (hfits : bytes.length ≤ recordCapacity)
      (hdecode : Record.decode bytes = .ok (describe payload)) :
      Saving written describe before (some bytes) (.ok ())
  | unserialized {e : CodecError} (hwritten : written = .error e) :
      Saving written describe before before (.error (.codec e))
  | overclaimed {block : Block} (hwritten : written = .ok block)
      (hclaimed : payloadCapacity < block.claimed) :
      Saving written describe before before (.error (.codec .bufferTooSmall))
  | refused {block : Block} {payload : Bytes payloadCapacity} {e : StorageError}
      (hwritten : written = .ok block)
      (hclaimed : block.contents? payloadCapacity = some payload.val) :
      Saving written describe before before (.error (.storage e))

namespace Saving

variable {describe : Bytes payloadCapacity → Record} {before after : Option (List UInt8)}
  {ending : Except Fault Unit}

/-- A writer that fails changes nothing. -/
theorem of_error {e : CodecError} (h : Saving (.error e) describe before after ending) :
    after = before ∧ ending = .error (.codec e) := by
  cases h with
  | kept hwritten => cases hwritten
  | unserialized hwritten =>
    cases hwritten
    exact ⟨rfl, rfl⟩
  | overclaimed hwritten => cases hwritten
  | refused hwritten => cases hwritten

/-- A writer that claims too much changes nothing. -/
theorem of_overclaimed {block : Block} (h : Saving (.ok block) describe before after ending)
    (hclaim : payloadCapacity < block.claimed) :
    after = before ∧ ending = .error (.codec .bufferTooSmall) := by
  have hnone : block.contents? payloadCapacity = none := if_neg (Nat.not_le_of_lt hclaim)
  cases h with
  | kept hwritten hclaimed =>
    cases hwritten
    cases hnone.symm.trans hclaimed
  | unserialized hwritten => cases hwritten
  | overclaimed _ _ => exact ⟨rfl, rfl⟩
  | refused hwritten hclaimed =>
    cases hwritten
    cases hnone.symm.trans hclaimed

/-- What is counted as saved is there. -/
theorem of_ok {block : Block} {payload : Bytes payloadCapacity}
    (h : Saving (.ok block) describe before after (.ok ()))
    (hclaimed : block.contents? payloadCapacity = some payload.val) :
    ∃ bytes, after = some bytes ∧ Record.decode bytes = .ok (describe payload) := by
  cases h with
  | @kept _ payload' bytes hwritten hclaimed' _ hdecode =>
    cases hwritten
    cases Subtype.ext (Option.some.inj (hclaimed.symm.trans hclaimed'))
    exact ⟨bytes, rfl, hdecode⟩

end Saving

namespace Record

/-- What a writer claims is the payload, unless it claims too much. -/
theorem payloadOf_ok (block : Block) :
    (∃ payload : Bytes payloadCapacity, payloadOf (.ok block) = .ok payload ∧
        block.contents? payloadCapacity = some payload.val) ∨
      payloadOf (.ok block) = .error .bufferTooSmall ∧ payloadCapacity < block.claimed := by
  by_cases hclaim : block.claimed ≤ payloadCapacity
  · have hlength : ((block.written ++ List.replicate payloadCapacity 0).take
        block.claimed).length ≤ payloadCapacity :=
      Nat.le_trans (List.length_take_le _ _) hclaim
    refine .inl ⟨⟨_, hlength⟩, ?_, if_pos hclaim⟩
    simp only [payloadOf, Block.contents?, if_pos hclaim, dif_pos hlength]
  · refine .inr ⟨?_, Nat.lt_of_not_le hclaim⟩
    simp only [payloadOf, Block.contents?, if_neg hclaim]

theorem contents?_of_payloadOf {written : Except CodecError Block}
    {payload : Bytes payloadCapacity} (h : payloadOf written = .ok payload) :
    ∃ block, written = .ok block ∧ block.contents? payloadCapacity = some payload.val := by
  cases written with
  | error e => cases h
  | ok block =>
    rcases payloadOf_ok block with ⟨payload', hok, hclaimed⟩ | ⟨hfailed, -⟩
    · cases hok.symm.trans h
      exact ⟨block, rfl, hclaimed⟩
    · cases hfailed.symm.trans h

theorem payloadOf_eq_error {written : Except CodecError Block} {e : CodecError}
    (h : payloadOf written = .error e) :
    written = .error e ∨
      ∃ block, written = .ok block ∧ payloadCapacity < block.claimed ∧ e = .bufferTooSmall := by
  cases written with
  | error e' =>
    cases h
    exact .inl rfl
  | ok block =>
    rcases payloadOf_ok block with ⟨payload, hok, -⟩ | ⟨hfailed, hclaimed⟩
    · cases hok.symm.trans h
    · cases hfailed.symm.trans h
      exact .inr ⟨block, rfl, hclaimed, rfl⟩

end Record

namespace ConfigStore

variable {τ : Type} [Storage τ] {s : ConfigStore τ} {contents : Storage.Contents}

/-- Saving one object, with whatever record it may have. -/
theorem Keeps.saving (h : s.Keeps contents) (key : Label) (record : Except CodecError Record) :
    ∃ value, (s.save key record).state.Keeps (contents.set key.text value) ∧
      ∀ written describe, record = (Record.payloadOf written).map describe →
        Saving written describe (contents key.text) value (s.save key record).answer := by
  rcases h.save key record with
    ⟨r, rfl, hok, hkeeps⟩ | ⟨e, rfl, hfailed, hkeeps⟩ | ⟨r, e, rfl, hfailed, hkeeps⟩
  · refine ⟨some r.encode, hkeeps, fun written describe hrecord => ?_⟩
    obtain ⟨payload, hpayload, rfl⟩ := Except.map_eq_ok hrecord.symm
    obtain ⟨block, hwritten, hclaimed⟩ := Record.contents?_of_payloadOf hpayload
    rw [hok]
    exact .kept hwritten hclaimed (Record.length_encode_le _) (Record.decode_encode _)
  · refine ⟨contents key.text, ?_, fun written describe hrecord => ?_⟩
    · rwa [Storage.Contents.set_same]
    · rw [hfailed]
      rcases Record.payloadOf_eq_error (Except.map_eq_error hrecord.symm) with
        hwritten | ⟨block, hwritten, hclaimed, rfl⟩
      · exact .unserialized hwritten
      · exact .overclaimed hwritten hclaimed
  · refine ⟨contents key.text, ?_, fun written describe hrecord => ?_⟩
    · rwa [Storage.Contents.set_same]
    · obtain ⟨payload, hpayload, -⟩ := Except.map_eq_ok hrecord.symm
      obtain ⟨block, hwritten, hclaimed⟩ := Record.contents?_of_payloadOf hpayload
      rw [hfailed]
      exact .refused hwritten hclaimed

end ConfigStore

/-! ## Counts and events -/

/-- The one event for an object that was to be saved. -/
def saveEvent (key : Label) : Except Fault Unit → Event
  | .ok () => .configSaved key
  | .error _ => .configFailed key

theorem eq_ok_of_saveEvent {key : Label} {ending : Except Fault Unit}
    (h : saveEvent key ending = .configSaved key) : ending = .ok () := by
  cases ending with
  | ok _ => rfl
  | error f => cases h

theorem events_saveReport (key : Label) (ending : Except Fault Unit) :
    Journal.events (saveReport key ending) = [saveEvent key ending] := by
  cases ending <;> rfl

/-- An object is counted as applied or as failed, according to its ending. -/
theorem Tally.addSave_eq (t : Tally) (ending : Except Fault Unit) :
    t.addSave ending =
      { t with
        applied := t.applied + if ending.isOk then 1 else 0
        failed := t.failed + if !ending.isOk then 1 else 0 } := by
  cases ending <;> rfl

theorem Tally.foldl_addSave (endings : List (Except Fault Unit)) (t : Tally) :
    endings.foldl addSave t =
      { t with
        applied := t.applied + endings.countP Except.isOk
        failed := t.failed + endings.countP fun ending => !ending.isOk } := by
  induction endings generalizing t with
  | nil => rfl
  | cons ending rest ih =>
    rw [List.foldl_cons, ih, addSave_eq, List.countP_cons, List.countP_cons]
    simp only [mk.injEq, true_and]
    omega

/-- The medium raises no events when it is written to. -/
def Storage.Quiet (τ : Type) [Storage τ] : Prop :=
  ∀ (m : τ) space key bytes, Journal.events (Storage.write m space key bytes).journal = []

theorem Memory.quiet : Storage.Quiet Memory :=
  fun _ _ _ _ => rfl

theorem Faulty.quiet {τ : Type} [Storage τ] (h : Storage.Quiet τ) : Storage.Quiet (Faulty τ) := by
  intro f space key bytes
  rcases f.write_cases space key bytes with ⟨e, hrefused⟩ | ⟨left, hpassed⟩
  · rw [hrefused]
    rfl
  · rw [hpassed]
    exact h f.medium space key bytes

namespace ConfigStore

variable {τ : Type} [Storage τ] {s : ConfigStore τ} {contents : Storage.Contents}

theorem events_save (hquiet : Storage.Quiet τ) (key : Label) (record : Except CodecError Record) :
    Journal.events (s.save key record).journal = [] := by
  cases record with
  | error e => rfl
  | ok r =>
    have hwrite := hquiet s.storage s.space key.text r.encode
    rw [save, writeRecord, r.write_eq]
    dsimp only [Block.ofBytes]
    split
    · exact hwrite
    · rw [Journal.events_append, hwrite]
      rfl

end ConfigStore

/-! ## All objects -/

/-- What saving objects comes to: every object ends in one of four ways, by what was under its own
key, and nothing else is touched. -/
structure Saves (objects : List (Label × Except CodecError Record))
    (before after : Storage.Contents) (ending : Label → Except Fault Unit) : Prop where
  each : ∀ o ∈ objects, ∀ written describe, o.2 = (Record.payloadOf written).map describe →
    Saving written describe (before o.1.text) (after o.1.text) (ending o.1)
  others : ∀ key, key ∉ objects.map (fun o => o.1.text) → after key = before key

/-- One more object in front. -/
theorem Saves.cons {o : Label × Except CodecError Record}
    {rest : List (Label × Except CodecError Record)} {before after : Storage.Contents}
    {value : Option (List UInt8)} {answer : Except Fault Unit} {ending : Label → Except Fault Unit}
    (hkey : o.1.text ∉ rest.map fun o => o.1.text)
    (hsaving : ∀ written describe, o.2 = (Record.payloadOf written).map describe →
      Saving written describe (before o.1.text) value answer)
    (hrest : Saves rest (before.set o.1.text value) after ending) :
    Saves (o :: rest) before after fun l => if l = o.1 then answer else ending l := by
  constructor
  · intro o' ho' written describe hrecord
    rcases List.mem_cons.mp ho' with rfl | hmem
    · rw [hrest.others _ hkey, Storage.Contents.set_self, if_pos rfl]
      exact hsaving written describe hrecord
    · have hother : o'.1.text ≠ o.1.text := fun hsame =>
        hkey (hsame ▸ List.mem_map_of_mem hmem)
      have hsaved := hrest.each o' hmem written describe hrecord
      rw [Storage.Contents.set_of_ne hother] at hsaved
      rwa [if_neg fun hsame => hother (congrArg Label.text hsame)]
  · intro key hkey'
    rw [List.map_cons, List.mem_cons, not_or] at hkey'
    rw [hrest.others key hkey'.2, Storage.Contents.set_of_ne hkey'.1]

namespace Aquarium

variable {τ : Type} [Storage τ]

/-- **A pass over objects with distinct keys.** -/
theorem exists_saves (objects : List (Label × Except CodecError Record))
    (hkeys : (objects.map fun o => o.1.text).Nodup) (acc : Outcome (ConfigStore τ) Tally)
    {contents : Storage.Contents} (h : acc.state.Keeps contents) :
    ∃ contents' ending, (objects.foldl saveStep acc).state.Keeps contents' ∧
      Saves objects contents contents' ending ∧
      (objects.foldl saveStep acc).answer =
        (objects.map fun o => ending o.1).foldl Tally.addSave acc.answer ∧
      (Storage.Quiet τ → Journal.events (objects.foldl saveStep acc).journal =
        Journal.events acc.journal ++ objects.map fun o => saveEvent o.1 (ending o.1)) := by
  induction objects generalizing acc contents with
  | nil =>
    exact ⟨contents, fun _ => .ok (), h, ⟨fun o ho => absurd ho List.not_mem_nil, fun _ _ => rfl⟩,
      rfl, fun _ => (List.append_nil _).symm⟩
  | cons o rest ih =>
    rw [List.map_cons, List.nodup_cons] at hkeys
    obtain ⟨value, hkeeps, hsaving⟩ := h.saving o.1 o.2
    obtain ⟨contents', ending, hafter, hsaves, hcounts, hevents⟩ :=
      ih hkeys.2 (saveStep acc o) hkeeps
    -- the endings of the others stay, because their labels are other labels
    have hendings : ∀ o' ∈ rest,
        (if o'.1 = o.1 then (acc.state.save o.1 o.2).answer else ending o'.1) = ending o'.1 := by
      intro o' ho'
      refine if_neg fun hsame => hkeys.1 ?_
      rw [← hsame]
      exact List.mem_map_of_mem ho'
    refine ⟨contents', _, hafter, hsaves.cons hkeys.1 hsaving, ?_, fun hquiet => ?_⟩
    · rw [List.foldl_cons, hcounts, List.map_cons, List.foldl_cons, if_pos rfl,
        List.map_congr_left hendings]
      rfl
    · have hstep : Journal.events (saveStep acc o).journal =
          Journal.events acc.journal ++ [saveEvent o.1 (acc.state.save o.1 o.2).answer] := by
        simp only [saveStep, Journal.events_append, ConfigStore.events_save hquiet,
          events_saveReport, List.append_nil]
      have hlater : (rest.map fun o' => saveEvent o'.1
          (if o'.1 = o.1 then (acc.state.save o.1 o.2).answer else ending o'.1)) =
          rest.map fun o' => saveEvent o'.1 (ending o'.1) :=
        List.map_congr_left fun o' ho' => congrArg (saveEvent o'.1) (hendings o' ho')
      rw [List.foldl_cons, hevents hquiet, hstep, List.map_cons, if_pos rfl, hlater,
        List.append_assoc]
      rfl

variable {ρ δ σ : Type} [Rule ρ] [Actuator δ] [Sensor σ] (a : Aquarium ρ δ σ)

/-- **A failing object damages neither the store nor another object.**  Rules and drivers may make
anything of the buffer for their parameters, and the medium may refuse anything, as long as nothing
has changed then.  Every object of the aquarium ends in one of the ways of `Saving`: under its key
there is a complete record with its kind, its place, its name and the bytes that were claimed, or
still what was there before, and the object has failed.  No other key is touched, that of a free
place included.  The counts are those of the endings, and so are the events, one for every object,
if the medium raises none of its own. -/
theorem failures_stay_local {store : ConfigStore τ} {contents : Storage.Contents}
    (h : store.Keeps contents) :
    ∃ (contents' : Storage.Contents) (ending : Label → Except Fault Unit),
      (a.saveAll store).state.Keeps contents' ∧
      (∀ id s, a.controllers.get? id = some s →
        Saving (Rule.save s.rule payloadCapacity)
          (fun payload => ⟨s.kind.tag, id, .unassigned, .unassigned, s.name, payload⟩)
          (contents (Label.text ⟨.controller, id⟩)) (contents' (Label.text ⟨.controller, id⟩))
          (ending ⟨.controller, id⟩)) ∧
      (∀ id s, a.actuators.get? id = some s →
        Saving (Actuator.save s.device payloadCapacity)
          (fun payload => ⟨s.kind.tag, s.controller, id, .unassigned, s.name, payload⟩)
          (contents (Label.text ⟨.actuator, id⟩)) (contents' (Label.text ⟨.actuator, id⟩))
          (ending ⟨.actuator, id⟩)) ∧
      (∀ id s, a.sensors.get? id = some s →
        Saving (Sensor.save s.device payloadCapacity)
          (fun payload => ⟨s.kind.tag, .unassigned, .unassigned, id, s.name, payload⟩)
          (contents (Label.text ⟨.sensor, id⟩)) (contents' (Label.text ⟨.sensor, id⟩))
          (ending ⟨.sensor, id⟩)) ∧
      (∀ key, key ∉ a.labels.map Label.text → contents' key = contents key) ∧
      (∀ l : Label, l.id.isAssigned = true → l ∉ a.labels → contents' l.text = contents l.text) ∧
      (a.saveAll store).answer =
        ⟨a.labels.countP fun l => (ending l).isOk, 0, 0,
          a.labels.countP fun l => !(ending l).isOk⟩ ∧
      (Storage.Quiet τ → Journal.events (a.saveAll store).journal =
        a.labels.map fun l => saveEvent l (ending l)) := by
  have hkeys : (a.records.map fun o => o.1.text).Nodup := by
    rw [keys_records]
    exact a.nodup_keys
  obtain ⟨contents', ending, hafter, ⟨heach, hothers⟩, hcounts, hevents⟩ :=
    exists_saves a.records hkeys ⟨Tally.zero, store, []⟩ h
  rw [keys_records] at hothers
  refine ⟨contents', ending, hafter, ?_, ?_, ?_, hothers, ?_, ?_, ?_⟩
  · exact fun id s hid => heach _ (a.mem_records_controller hid) _ _ rfl
  · exact fun id s hid => heach _ (a.mem_records_actuator hid) _ _ rfl
  · exact fun id s hid => heach _ (a.mem_records_sensor hid) _ _ rfl
  · intro l hassigned hfree
    refine hothers l.text fun hkey => hfree ?_
    obtain ⟨l', hl', hsame⟩ := List.mem_map.mp hkey
    rwa [← Label.text_inj (a.isAssigned_of_mem_labels hl') hassigned hsame]
  · have hanswer : (a.saveAll store).answer =
        (a.labels.map ending).foldl Tally.addSave Tally.zero := by
      rw [← labels_records, List.map_map]
      exact hcounts
    rw [hanswer, Tally.foldl_addSave, List.countP_map, List.countP_map]
    simp only [Tally.zero, Nat.zero_add, Function.comp_def]
  · intro hquiet
    have hjournal : (a.saveAll store).journal =
        (a.records.foldl saveStep ⟨Tally.zero, store, []⟩).journal ++
          [.notice (.saved (a.saveAll store).answer)] := rfl
    rw [hjournal, Journal.events_append, hevents hquiet, ← labels_records, List.map_map]
    exact List.append_nil _

/-- A script that does nothing, and makes something of the buffer for its parameters. -/
def saver (saving : ScriptSaving) : Script :=
  { Script.default with saving := saving }

/-- Of three scripts one fails to write its parameters, and one boasts. -/
def troubled : Aquarium Script Relay Probe :=
  (((((empty.addController "mute" (saver (.refuse .invalid))).state.addController "boaster"
    (saver (.claim 200))).state.addController "honest" (saver (.bytes [1, 2, 3]))).state.addActuator
      "pump" Relay.idle).state.addSensor "probe" Probe.silent).state

/-- Something is stored for the first place, and there is room for two records more. -/
def crowded : ConfigStore (Faulty Memory) :=
  ⟨⟨⟨Table.empty.put (ConfigStore.defaultSpace, "C0") [7]⟩,
    { Faults.none with write := some .full, writesLeft := 2 }⟩, ConfigStore.defaultSpace⟩

/-- The honest script and the pump are saved.  For the mute script there is still what was there
before, and for the boaster there is still nothing. -/
theorem honest_script_is_saved :
    ∃ contents, (troubled.saveAll crowded).state.Keeps contents ∧
      contents "C0" = some [7] ∧ contents "C1" = none ∧
      (∃ bytes, contents "C2" = some bytes ∧
        Record.decode bytes =
          .ok ⟨RuleKind.custom.tag, .ofNat 2, .unassigned, .unassigned, Name.ofString "honest",
            ⟨[1, 2, 3], by decide⟩⟩) ∧
      (troubled.saveAll crowded).answer = ⟨2, 0, 0, 3⟩ ∧
      Journal.events (troubled.saveAll crowded).journal =
        [.configFailed ⟨.controller, .ofNat 0⟩, .configFailed ⟨.controller, .ofNat 1⟩,
          .configSaved ⟨.controller, .ofNat 2⟩, .configSaved ⟨.actuator, .ofNat 0⟩,
          .configFailed ⟨.sensor, .ofNat 0⟩] := by
  have hkeeps : crowded.Keeps _ :=
    ⟨_, _, Faulty.lawful (Memory.lawful ConfigStore.defaultSpace), ⟨trivial, rfl, rfl⟩, rfl⟩
  obtain ⟨contents, ending, hafter, hcontrollers, -, -, -, -, -, hevents⟩ :=
    failures_stay_local troubled hkeeps
  have hreported : Journal.events (troubled.saveAll crowded).journal =
        [.configFailed ⟨.controller, .ofNat 0⟩, .configFailed ⟨.controller, .ofNat 1⟩,
          .configSaved ⟨.controller, .ofNat 2⟩, .configSaved ⟨.actuator, .ofNat 0⟩,
          .configFailed ⟨.sensor, .ofNat 0⟩] := by decide +kernel
  have hmute := hcontrollers (.ofNat 0) _ rfl
  have hboaster := hcontrollers (.ofNat 1) _ rfl
  have hhonest := hcontrollers (.ofNat 2) _ rfl
  have hlabels : troubled.labels = [⟨.controller, .ofNat 0⟩, ⟨.controller, .ofNat 1⟩,
      ⟨.controller, .ofNat 2⟩, ⟨.actuator, .ofNat 0⟩, ⟨.sensor, .ofNat 0⟩] := by decide +kernel
  have hsaved : ending ⟨.controller, .ofNat 2⟩ = .ok () := by
    have hsame := (hevents (Faulty.quiet Memory.quiet)).symm.trans hreported
    rw [hlabels] at hsame
    simp only [List.map_cons, List.cons.injEq] at hsame
    exact eq_ok_of_saveEvent hsame.2.2.1
  rw [hsaved] at hhonest
  refine ⟨contents, hafter, hmute.of_error.1, (hboaster.of_overclaimed (by decide)).1,
    hhonest.of_ok rfl, by decide +kernel, hreported⟩

end Aquarium

end AquariumControl
