import AquariumControl.Aquarium.Status
import AquariumControl.Proofs.FailedSaves

/-!
# Names

A text becomes a name by losing what does not fit at its end.  What is left fits, so a name is never
cut again, however often it is written into a record, read from one or shown.

* `Name.fitting_front`, `Name.prefix_fitting` — a name is a front of its text, and every front that
  fits is a front of it.
* `Name.ofString_text` — a name is not cut again.
* `Aquarium.bears_saveAll`, `Aquarium.name?_restoreAll` — the names in a store to which everything
  was saved, and in an aquarium that was restored.
* `Aquarium.Upkeep` — saving, restoring and starting anew, any number of times; `Upkeep.name?` is
  the induction on it.
* `Aquarium.names_are_cut_once` — what a name is and how long it lasts.
-/

set_option autoImplicit false

namespace AquariumControl

namespace Name

/-! ## The front that fits -/

theorem fitting_front (room : Nat) (cs : List Char) : fitting room cs <+: cs := by
  induction cs generalizing room with
  | nil => exact List.prefix_refl []
  | cons c cs ih =>
    rw [fitting]
    split
    · exact List.cons_prefix_cons.mpr ⟨rfl, ih _⟩
    · exact List.nil_prefix

/-- Every front that fits is a front of it. -/
theorem prefix_fitting {front cs : List Char} (h : front <+: cs) {room : Nat}
    (hsize : (String.ofList front).utf8ByteSize ≤ room) : front <+: fitting room cs := by
  induction front generalizing cs room with
  | nil => exact List.nil_prefix
  | cons c front ih =>
    obtain ⟨rest, rfl⟩ := h
    rw [utf8ByteSize_ofList_cons] at hsize
    rw [List.cons_append, fitting, if_pos (by omega)]
    exact List.cons_prefix_cons.mpr ⟨rfl, ih (List.prefix_append front rest) (by omega)⟩

/-- What fits as it stands is not cut. -/
theorem fitting_of_le {cs : List Char} {room : Nat}
    (h : (String.ofList cs).utf8ByteSize ≤ room) : fitting room cs = cs :=
  (fitting_front room cs).eq_of_length_le (prefix_fitting (List.prefix_refl cs) h).length_le

/-- It ends only before a character for which there is no room any more. -/
theorem lt_of_fitting_append {cs rest : List Char} {c : Char} {room : Nat}
    (h : cs = fitting room cs ++ c :: rest) :
    room < (String.ofList (fitting room cs)).utf8ByteSize + c.utf8Size := by
  refine Nat.lt_of_not_le fun hle => ?_
  have hlonger : fitting room cs ++ [c] <+: fitting room cs := by
    refine prefix_fitting ⟨rest, ?_⟩ ?_
    · rw [List.append_assoc]
      exact h.symm
    · rwa [String.ofList_append, String.utf8ByteSize_append, utf8ByteSize_ofList_cons]
  have hlength := hlonger.length_le
  rw [List.length_append, List.length_singleton] at hlength
  omega

/-- **A name is not cut again.** -/
@[simp] theorem ofString_text (n : Name) : ofString n.text = n := by
  obtain ⟨text, hsize⟩ := n
  have hfits : fitting nameCapacity text.toList = text.toList :=
    fitting_of_le (by rwa [String.ofList_toList])
  simp only [ofString, hfits, String.ofList_toList]

end Name

/-! ## Names of objects -/

/-- The occupants of a registry by label and name. -/
theorem Registry.mem_named {α : Type} {capacity : Nat} (r : Registry α capacity) (tag : Tag)
    (name : α → Name) {l : Label} {n : Name} :
    (l, n) ∈ r.entries.map (fun e => (⟨tag, e.1⟩, name e.2)) ↔
      l.tag = tag ∧ (r.get? l.id).map name = some n := by
  simp only [List.mem_map, Prod.exists, Registry.mem_entries, Prod.mk.injEq,
    Option.map_eq_some_iff]
  constructor
  · rintro ⟨id, object, hget, rfl, rfl⟩
    exact ⟨rfl, object, hget, rfl⟩
  · obtain ⟨tag', id⟩ := l
    rintro ⟨rfl, object, hget, rfl⟩
    exact ⟨id, object, hget, rfl, rfl⟩

/-- The names in a snapshot. -/
def Status.names (t : Status) : List (Label × Name) :=
  (t.controllers.map fun c => (⟨.controller, c.id⟩, c.name)) ++
    (t.actuators.map fun c => (⟨.actuator, c.id⟩, c.name)) ++
    (t.sensors.map fun c => (⟨.sensor, c.id⟩, c.name))

namespace Aquarium

variable {ρ δ σ : Type}

/-- The name of the object with a label. -/
def name? (a : Aquarium ρ δ σ) (l : Label) : Option Name :=
  match l.tag with
  | .controller => (a.controllers.get? l.id).map ControllerSlot.name
  | .actuator => (a.actuators.get? l.id).map ActuatorSlot.name
  | .sensor => (a.sensors.get? l.id).map SensorSlot.name

variable [Rule ρ] [Actuator δ] [Sensor σ] (a : Aquarium ρ δ σ)

/-- A snapshot shows every object with its name. -/
theorem mem_names_status {l : Label} {n : Name} :
    (l, n) ∈ a.status.names ↔ a.name? l = some n := by
  obtain ⟨tag, id⟩ := l
  rw [Status.names, List.mem_append, List.mem_append, status, List.map_map, List.map_map,
    List.map_map]
  refine (or_congr (or_congr (a.controllers.mem_named .controller ControllerSlot.name)
    (a.actuators.mem_named .actuator ActuatorSlot.name))
    (a.sensors.mem_named .sensor SensorSlot.name)).trans ?_
  cases tag <;> simp [name?]

/-- What the record of an object is made of; its name is that of the object. -/
theorem exists_record {l : Label} {n : Name} (h : a.name? l = some n) :
    ∃ written describe, (l, (Record.payloadOf written).map describe) ∈ a.records ∧
      ∀ payload, (describe payload).name = n := by
  obtain ⟨tag, id⟩ := l
  cases tag with
  | controller =>
    obtain ⟨s, hs, rfl⟩ := Option.map_eq_some_iff.mp h
    exact ⟨_, _, a.mem_records_controller hs, fun _ => rfl⟩
  | actuator =>
    obtain ⟨s, hs, rfl⟩ := Option.map_eq_some_iff.mp h
    exact ⟨_, _, a.mem_records_actuator hs, fun _ => rfl⟩
  | sensor =>
    obtain ⟨s, hs, rfl⟩ := Option.map_eq_some_iff.mp h
    exact ⟨_, _, a.mem_records_sensor hs, fun _ => rfl⟩

end Aquarium

/-! ## Saving and restoring a name -/

/-- Where nothing is counted as failed, nothing failed. -/
theorem Tally.ok_of_none_failed {endings : List (Except Fault Unit)}
    (h : (endings.foldl addSave zero).failed = 0) {ending : Except Fault Unit}
    (hending : ending ∈ endings) : ending = .ok () := by
  rw [foldl_addSave] at h
  have hnone := List.countP_eq_zero.mp (Nat.eq_zero_of_add_eq_zero_left h)
  cases ending with
  | ok _ => rfl
  | error f => exact absurd rfl (hnone _ hending)

/-- Whatever is stored under a key bears a name, if it is a record. -/
def Bears (value : Option (List UInt8)) (n : Name) : Prop :=
  ∀ r, ConfigStore.recordOf (Storage.copy value recordCapacity) = .ok (some r) → r.name = n

namespace Saving

variable {written : Except CodecError Block} {describe : Bytes payloadCapacity → Record}
  {before after : Option (List UInt8)} {n : Name}

/-- What is saved is a record with the name of the object. -/
theorem found_of_ok (h : Saving written describe before after (.ok ()))
    (hname : ∀ payload, (describe payload).name = n) :
    ∃ r, ConfigStore.recordOf (Storage.copy after recordCapacity) = .ok (some r) ∧ r.name = n := by
  cases h with
  | kept _ _ hfits hdecode =>
    exact ⟨_, ConfigStore.recordOf_of_decode hfits hdecode, hname _⟩

/-- Saving leaves no other name there. -/
theorem bears {ending : Except Fault Unit} (h : Saving written describe before after ending)
    (hname : ∀ payload, (describe payload).name = n) (hbefore : Bears before n) :
    Bears after n := by
  cases h with
  | kept _ _ hfits hdecode =>
    intro r hr
    rw [ConfigStore.recordOf_of_decode hfits hdecode] at hr
    obtain rfl := Option.some.inj (Except.ok.inj hr)
    exact hname _
  | unserialized _ => exact hbefore
  | overclaimed _ _ => exact hbefore
  | refused _ _ => exact hbefore

end Saving

namespace ConfigStore

variable {α τ : Type} [Storage τ]

/-- An object to which a record is applied takes the name of the record; any other stays as it
is. -/
theorem name_restore (store : ConfigStore τ) (key : Label) (kind : UInt8)
    {take : Record → Except CodecError α} {name : α → Name}
    (htake : ∀ r object, take r = .ok object → name object = r.name) (object : α) :
    ((store.restore key kind take object).answer = .ok .applied ∧
      ∃ r, (store.readRecord key.text).1 = .ok (some r) ∧
        name (store.restore key kind take object).state = r.name) ∨
    ((store.restore key kind take object).answer ≠ .ok .applied ∧
      (store.restore key kind take object).state = object) := by
  have hrestored := store.restoration key kind (fun r => Eq.refl ((take r).map name)) object
  generalize (store.restore key kind take object).state = object',
    (store.restore key kind take object).answer = ending at hrestored
  generalize (store.readRecord key.text).1 = found at hrestored
  cases hrestored with
  | missing => exact .inr ⟨by simp, rfl⟩
  | unreadable => exact .inr ⟨by simp, rfl⟩
  | mismatched => exact .inr ⟨by simp, rfl⟩
  | rejected => exact .inr ⟨by simp, rfl⟩
  | applied _ _ hdescribed =>
    obtain ⟨taken, htaken, hname⟩ := Except.map_eq_ok hdescribed
    exact .inl ⟨rfl, _, rfl, by rw [← hname, htake _ _ htaken]⟩

end ConfigStore

namespace Registry

variable {α τ : Type} [Storage τ] {capacity : Nat}

/-- The same for an occupant of a registry whose occupants are all restored. -/
theorem name_mapAccum (r : Registry α capacity) {store : ConfigStore τ} {tag : Tag}
    {kind : α → UInt8} {take : α → Record → Except CodecError α} {name : α → Name}
    (htake : ∀ object record object', take object record = .ok object' →
      name object' = record.name)
    {id : SlotId} {object : α} (h : r.get? id = some object) {ending : Except Fault Restore}
    (hending : ending = (store.restore ⟨tag, id⟩ (kind object) (take object) object).answer)
    (acc : Tally × Journal) :
    let after := (r.mapAccum (Aquarium.restoreStep tag fun object id =>
      store.restore ⟨tag, id⟩ (kind object) (take object) object) acc).1
    (ending = .ok .applied ∧
      ∃ record, (store.readRecord (Label.text ⟨tag, id⟩)).1 = .ok (some record) ∧
        (after.get? id).map name = some record.name) ∨
    (ending ≠ .ok .applied ∧ (after.get? id).map name = some (name object)) := by
  intro after
  have hafter : after.get? id =
      some (store.restore ⟨tag, id⟩ (kind object) (take object) object).state := by
    rw [r.get?_mapAccum (f := Aquarium.restoreStep tag fun object id =>
      store.restore ⟨tag, id⟩ (kind object) (take object) object) (fun _ _ _ => rfl), h]
    rfl
  rw [hafter, hending, Option.map_some]
  rcases store.name_restore ⟨tag, id⟩ (kind object) (htake object) object with
    ⟨happlied, record, hfound, hname⟩ | ⟨hstays, hsame⟩
  · exact .inl ⟨happlied, record, hfound, by rw [hname]⟩
  · exact .inr ⟨hstays, by rw [hsame]⟩

end Registry

namespace Aquarium

variable {ρ δ σ τ : Type} [Rule ρ] [Actuator δ] [Sensor σ] [Storage τ]

/-- **Restoring gives an object the name of its record, or leaves its name alone.** -/
theorem name?_restoreAll (a : Aquarium ρ δ σ) (store : ConfigStore τ) {l : Label} {n : Name}
    (h : a.name? l = some n) :
    (a.ending store l = .ok .applied ∧
      ∃ record, (store.readRecord l.text).1 = .ok (some record) ∧
        (a.restoreAll store).state.name? l = some record.name) ∨
    (a.ending store l ≠ .ok .applied ∧ (a.restoreAll store).state.name? l = some n) := by
  obtain ⟨tag, id⟩ := l
  cases tag with
  | controller =>
    obtain ⟨s, hs, rfl⟩ := Option.map_eq_some_iff.mp h
    refine a.controllers.name_mapAccum (fun s record s' htake => ?_) hs
      (a.ending_controller store id s hs) _
    obtain ⟨loaded, -, rfl⟩ := Except.map_eq_ok htake
    rfl
  | actuator =>
    obtain ⟨s, hs, rfl⟩ := Option.map_eq_some_iff.mp h
    refine a.actuators.name_mapAccum (fun s record s' htake => ?_) hs
      (a.ending_actuator store id s hs) _
    obtain ⟨loaded, -, rfl⟩ := Except.map_eq_ok htake
    rfl
  | sensor =>
    obtain ⟨s, hs, rfl⟩ := Option.map_eq_some_iff.mp h
    refine a.sensors.name_mapAccum (fun s record s' htake => ?_) hs
      (a.ending_sensor store id s hs) _
    obtain ⟨loaded, -, rfl⟩ := Except.map_eq_ok htake
    rfl

/-- **Saving leaves no other name under the label of an object**, and the name itself if nothing
fails. -/
theorem bears_saveAll (a : Aquarium ρ δ σ) {store : ConfigStore τ} {contents : Storage.Contents}
    (h : store.Keeps contents) {l : Label} {n : Name} (hname : a.name? l = some n) :
    ∃ contents' : Storage.Contents, (a.saveAll store).state.Keeps contents' ∧
      (Bears (contents l.text) n → Bears (contents' l.text) n) ∧
      ((a.saveAll store).answer.failed = 0 →
        ∃ r, ((a.saveAll store).state.readRecord l.text).1 = .ok (some r) ∧ r.name = n) := by
  have hkeys : (a.records.map fun o => o.1.text).Nodup := by
    rw [keys_records]
    exact a.nodup_keys
  obtain ⟨contents', ending, hafter, ⟨heach, -⟩, hcounts, -⟩ :=
    exists_saves a.records hkeys ⟨Tally.zero, store, []⟩ h
  obtain ⟨written, describe, hmem, hdescribe⟩ := a.exists_record hname
  have hsaving := heach _ hmem written describe rfl
  have hkeeps : (a.saveAll store).state.Keeps contents' := hafter
  refine ⟨contents', hkeeps, hsaving.bears hdescribe, fun hfailed => ?_⟩
  have hok : ending l = .ok () := by
    have hanswer : (a.saveAll store).answer =
        (a.records.map fun o => ending o.1).foldl Tally.addSave Tally.zero := hcounts
    rw [hanswer] at hfailed
    exact Tally.ok_of_none_failed hfailed
      (List.mem_map_of_mem (f := fun o => ending o.1) hmem)
  rw [hkeeps.readRecord]
  rw [hok] at hsaving
  exact hsaving.found_of_ok hdescribe

/-- Nothing is applied where there is no object. -/
theorem ending_of_no_name {a : Aquarium ρ δ σ} {l : Label} (h : a.name? l = none)
    (store : ConfigStore τ) : a.ending store l = .ok .notFound := by
  obtain ⟨tag, id⟩ := l
  cases tag <;> simp only [ending, Option.map_eq_none_iff.mp h, Option.elim_none]

/-! ## Any number of times -/

/-- What becomes of an aquarium and its store when everything is saved and restored, in any order
and any number of times.  Now and then the program may be started anew, with an aquarium that was
set up in any way; then what is stored for the object in question is applied to it. -/
inductive Upkeep (l : Label) (a : Aquarium ρ δ σ) (store : ConfigStore τ) :
    Aquarium ρ δ σ → ConfigStore τ → Prop
  | start : Upkeep l a store a store
  | saved {b : Aquarium ρ δ σ} {store' : ConfigStore τ} (h : Upkeep l a store b store') :
      Upkeep l a store b (b.saveAll store').state
  | restored {b : Aquarium ρ δ σ} {store' : ConfigStore τ} (h : Upkeep l a store b store') :
      Upkeep l a store (b.restoreAll store').state store'
  | restarted {b : Aquarium ρ δ σ} {store' : ConfigStore τ} (h : Upkeep l a store b store')
      (fresh : Aquarium ρ δ σ) (happlied : fresh.ending store' l = .ok .applied) :
      Upkeep l a store (fresh.restoreAll store').state store'

/-- **The name stays**, in the aquarium and in the store. -/
theorem Upkeep.name? {l : Label} {a b : Aquarium ρ δ σ} {store store' : ConfigStore τ}
    (h : Upkeep l a store b store') {contents : Storage.Contents} (hkeeps : store.Keeps contents)
    {n : Name} (hname : a.name? l = some n) (hbears : Bears (contents l.text) n) :
    b.name? l = some n ∧
      ∃ contents' : Storage.Contents, store'.Keeps contents' ∧ Bears (contents' l.text) n := by
  induction h with
  | start => exact ⟨hname, contents, hkeeps, hbears⟩
  | saved _ ih =>
    obtain ⟨hname, contents, hkeeps, hbears⟩ := ih
    obtain ⟨contents', hkeeps', hbears', -⟩ := bears_saveAll _ hkeeps hname
    exact ⟨hname, contents', hkeeps', hbears' hbears⟩
  | @restored b store' _ ih =>
    obtain ⟨hname, contents, hkeeps, hbears⟩ := ih
    refine ⟨?_, contents, hkeeps, hbears⟩
    rcases b.name?_restoreAll store' hname with ⟨-, r, hfound, hrestored⟩ | ⟨-, hstays⟩
    · rw [hkeeps.readRecord] at hfound
      rw [hrestored, hbears r hfound]
    · exact hstays
  | @restarted b store' _ fresh happlied ih =>
    obtain ⟨-, contents, hkeeps, hbears⟩ := ih
    refine ⟨?_, contents, hkeeps, hbears⟩
    cases hother : fresh.name? l with
    | none =>
      rw [ending_of_no_name hother] at happlied
      cases happlied
    | some other =>
      rcases fresh.name?_restoreAll store' hother with ⟨-, r, hfound, hrestored⟩ | ⟨hnot, -⟩
      · rw [hkeeps.readRecord] at hfound
        rw [hrestored, hbears r hfound]
      · exact absurd happlied hnot

/-- **A name is the longest front of a text that fits, and is cut only once.**  It consists of the
first characters of the text and takes at most 16 bytes; every front of the text that takes no more
is a front of the name, and where the text goes on, the next character would take it beyond 16
bytes.  Cut again, a name is the same name.  So it survives: when everything has been saved without
a failure, the record of an object bears its name.  If no other name is stored for the object, then
in whatever order everything is saved and restored, and whoever fails to be saved, the object has
this name, every snapshot shows it, and no record of the object bears another. -/
theorem names_are_cut_once (s : String) :
    ((Name.ofString s).text.toList <+: s.toList ∧
      (Name.ofString s).text.utf8ByteSize ≤ 16 ∧
      (∀ front : String, front.toList <+: s.toList → front.utf8ByteSize ≤ 16 →
        front.toList <+: (Name.ofString s).text.toList) ∧
      ∀ c rest, s.toList = (Name.ofString s).text.toList ++ c :: rest →
        16 < (Name.ofString s).text.utf8ByteSize + c.utf8Size) ∧
    Name.ofString (Name.ofString s).text = Name.ofString s ∧
    ∀ {a : Aquarium ρ δ σ} {store : ConfigStore τ} {contents : Storage.Contents} {l : Label},
      store.Keeps contents → a.name? l = some (Name.ofString s) →
      ((a.saveAll store).answer.failed = 0 →
        ∃ r, ((a.saveAll store).state.readRecord l.text).1 = .ok (some r) ∧
          r.name = Name.ofString s) ∧
      ((∀ r, (store.readRecord l.text).1 = .ok (some r) → r.name = Name.ofString s) →
        ∀ {b : Aquarium ρ δ σ} {store' : ConfigStore τ}, Upkeep l a store b store' →
          b.name? l = some (Name.ofString s) ∧
          (∀ n, (l, n) ∈ b.status.names ↔ n = Name.ofString s) ∧
          ∀ r, (store'.readRecord l.text).1 = .ok (some r) → r.name = Name.ofString s) := by
  have htext : (Name.ofString s).text.toList = Name.fitting nameCapacity s.toList :=
    String.toList_ofList
  refine ⟨⟨?_, (Name.ofString s).size_le, fun front hfront hsize => ?_, fun c rest hrest => ?_⟩,
    Name.ofString_text _,
    fun {a store contents l} hkeeps hname => ⟨?_, fun hstored b store' h => ?_⟩⟩
  · rw [htext]
    exact Name.fitting_front _ _
  · rw [htext]
    exact Name.prefix_fitting hfront (by rwa [String.ofList_toList])
  · rw [htext] at hrest
    exact Name.lt_of_fitting_append hrest
  · obtain ⟨-, -, -, hfound⟩ := a.bears_saveAll hkeeps hname
    exact hfound
  · have hbears : Bears (contents l.text) (Name.ofString s) := fun r hr =>
      hstored r (by rwa [hkeeps.readRecord])
    obtain ⟨hafter, contents', hkeeps', hbears'⟩ := h.name? hkeeps hname hbears
    refine ⟨hafter, fun n => ?_, fun r hr => hbears' r ?_⟩
    · rw [mem_names_status, hafter, Option.some.injEq, eq_comm]
    · rwa [hkeeps'.readRecord] at hr

/-- An aquarium with one thermostat. -/
def heated (name : String) : Aquarium StandardRule Relay Probe :=
  (empty.addController name (.thermostat .default)).state

/-- Nothing is stored yet. -/
def blank : ConfigStore Memory :=
  ⟨Memory.empty, ConfigStore.defaultSpace⟩

/-- Everything was saved when the thermostat had a long name. -/
def kept : ConfigStore Memory :=
  ((heated "Temperaturfühler-Becken").saveAll blank).state

/-- Where the next character would not fit, the name of the thermostat ends.  The program is started
anew with another name, and when what was stored is restored the name is back. -/
theorem long_name_comes_back :
    Name.ofString "Temperaturfühler-Becken" = Name.ofString "Temperaturfühle" ∧
      blank.Keeps (fun _ => none) ∧
      (heated "Temperaturfühler-Becken").name? ⟨.controller, .ofNat 0⟩ =
        some (Name.ofString "Temperaturfühler-Becken") ∧
      ((heated "Temperaturfühler-Becken").saveAll blank).answer.failed = 0 ∧
      (∃ r, (kept.readRecord "C0").1 = .ok (some r) ∧
        r.name = Name.ofString "Temperaturfühle") ∧
      (∀ r, (blank.readRecord "C0").1 = .ok (some r) →
        r.name = Name.ofString "Temperaturfühler-Becken") ∧
      (heated "spare").ending kept ⟨.controller, .ofNat 0⟩ = .ok .applied ∧
      ((heated "spare").restoreAll kept).state.name? ⟨.controller, .ofNat 0⟩ =
        some (Name.ofString "Temperaturfühle") := by
  have hcut : Name.ofString "Temperaturfühler-Becken" = Name.ofString "Temperaturfühle" := by
    decide +kernel
  have hkeeps : blank.Keeps (fun _ => none) :=
    ⟨_, _, Memory.lawful ConfigStore.defaultSpace, trivial, rfl⟩
  have hsaved : ((heated "Temperaturfühler-Becken").saveAll blank).answer.failed = 0 := by
    decide +kernel
  have hstored : ∀ r, (blank.readRecord "C0").1 = .ok (some r) →
      r.name = Name.ofString "Temperaturfühler-Becken" := by
    intro r hr
    cases hr
  have happlied : (heated "spare").ending kept ⟨.controller, .ofNat 0⟩ = .ok .applied :=
    Except.eq_ok_of_toOption (by decide +kernel)
  obtain ⟨-, -, hall⟩ := names_are_cut_once (ρ := StandardRule) (δ := Relay) (σ := Probe)
    (τ := Memory) "Temperaturfühler-Becken"
  obtain ⟨hfound, hstays⟩ := hall (a := heated "Temperaturfühler-Becken")
    (l := ⟨.controller, .ofNat 0⟩) hkeeps rfl
  have hback := (hstays hstored (.restarted (.saved .start) (heated "spare") happlied)).1
  rw [hcut] at hfound hback
  exact ⟨hcut, hkeeps, rfl, hsaved, hfound hsaved, hstored, happlied, hback⟩

end Aquarium

end AquariumControl
