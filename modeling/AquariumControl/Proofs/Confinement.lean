import AquariumControl.Proofs.Adoption

/-!
# Ids that come out of a store

A stored id is a byte, and a byte may name a place that its registry does not have.  The records of
thermostats and top-up rules are read through `SlotId.within`, which leaves such ids out.  The
actuators of a schedule's timers and the controller of an actuator are taken over as they stand.

* `Link` — an id together with the registry that it refers to; `Link.Confined` — the registry has
  that place, or the id names none.
* `RuleParameters.links_confined` — what is left of the ids in the parameters of a rule.
* `Aquarium.TakesOver` — an object has an id from the record that was restored.
* `Aquarium.takesOver_rule_iff`, `Aquarium.takesOver_actuator_iff` — what is taken over, read from
  the records.
* `Aquarium.restored_links_confined_iff` — when all ids are confined after restoring.
-/

set_option autoImplicit false

namespace AquariumControl

/-! ## Links -/

/-- How many places the registry of such objects has. -/
def Tag.capacity : Tag → Nat
  | .actuator => actuatorCapacity
  | .controller => controllerCapacity
  | .sensor => sensorCapacity

/-- An id in the settings of an object, and the kind of object that it refers to. -/
structure Link where
  tag : Tag
  id : SlotId
deriving DecidableEq

namespace Link

/-- The id names no place, or one that the registry has. -/
def Confined (l : Link) : Prop :=
  ∀ i, l.id.index = some i → i < l.tag.capacity

theorem confined_within (tag : Tag) (id : SlotId) : Confined ⟨tag, id.within tag.capacity⟩ := by
  intro i hi
  cases id with
  | unassigned => cases hi
  | slot j =>
    simp only [SlotId.within] at hi
    split at hi
    · next hj => rwa [← Option.some.inj hi]
    · cases hi

end Link

namespace RuleParameters

/-- The ids in the parameters of a rule. -/
def links : RuleParameters → List Link
  | .thermostat s => [⟨.sensor, s.sensor⟩, ⟨.actuator, s.heater⟩, ⟨.actuator, s.cooler⟩]
  | .topUp sensor _ _ _ => [⟨.sensor, sensor⟩]
  | .schedule timers => timers.toList.map fun t => ⟨.actuator, t.actuator⟩

def kind : RuleParameters → RuleKind
  | .thermostat _ => .thermostat
  | .topUp .. => .topUp
  | .schedule _ => .schedule

/-- Thermostats and top-up rules keep no id that no registry has. -/
theorem links_confined {p : RuleParameters} (h : p.kind ≠ .schedule) :
    ∀ l ∈ p.confined.links, l.Confined := by
  cases p with
  | thermostat s =>
    simp only [confined, links, Thermostat.Stored.confined, List.forall_mem_cons,
      List.not_mem_nil, false_implies, implies_true, and_true]
    exact ⟨Link.confined_within .sensor _, Link.confined_within .actuator _,
      Link.confined_within .actuator _⟩
  | topUp sensor delayLow delayHigh timeout =>
    simp only [confined, links, List.forall_mem_cons, List.not_mem_nil, false_implies,
      implies_true, and_true]
    exact Link.confined_within .sensor _
  | schedule timers => exact absurd rfl h

theorem eq_schedule {p : RuleParameters} (h : p.kind = .schedule) :
    ∃ timers, p = .schedule timers := by
  cases p with
  | thermostat s => cases h
  | topUp sensor delayLow delayHigh timeout => cases h
  | schedule timers => exact ⟨timers, rfl⟩

end RuleParameters

theorem StandardRule.kind_of_describe {r : StandardRule} {bytes : List UInt8} {p : RuleParameters}
    (h : r.describe bytes = .ok p) : p.kind = r.kind := by
  cases r with
  | thermostat t =>
    simp only [describe] at h
    split at h
    · cases h
    · split at h
      · cases h
      · rw [← Except.ok.inj h]
        rfl
  | topUp t =>
    simp only [describe] at h
    split at h
    · cases h
    · rw [← Except.ok.inj h]
      rfl
  | schedule t =>
    simp only [describe] at h
    split at h
    · cases h
    · split at h
      · rw [← Except.ok.inj h]
        rfl
      · cases h

/-- The standard rules among the rules of an aquarium: each loads what it loads by itself. -/
structure StandardRule.Loading {ρ : Type} [Rule ρ] (e : StandardRule → ρ) : Prop where
  injective : ∀ r r', e r = e r' → r = r'
  load : ∀ r bytes, Rule.load (e r) bytes = (Rule.load r bytes).map fun o => (e o.1, o.2)

/-! ## Objects that took a record over -/

/-- An object whose record was applied is what it makes of that record. -/
theorem ConfigStore.taken_of_applied {α τ : Type} [Storage τ] {store : ConfigStore τ} {key : Label}
    {kind : UInt8} {take : Record → Except CodecError α} {object : α}
    (h : (store.restore key kind take object).answer = .ok .applied) :
    ∃ record, (store.readRecord key.text).1 = .ok (some record) ∧
      take record = .ok (store.restore key kind take object).state := by
  have hended : Restoration kind take (fun object => object) (store.readRecord key.text).1 object
      (store.restore key kind take object).state (store.restore key kind take object).answer :=
    store.restoration key kind (fun r => by cases take r <;> rfl) object
  rw [h] at hended
  generalize (store.restore key kind take object).state = object' at hended ⊢
  generalize (store.readRecord key.text).1 = found at hended ⊢
  cases hended with
  | applied _ _ htaken => exact ⟨_, rfl, htaken⟩

namespace Aquarium

variable {ρ δ σ τ : Type} [Rule ρ] [Actuator δ] [Sensor σ] [Storage τ]

/-- **A standard rule whose record is applied has the parameters that the record describes**, less
the ids that it leaves out. -/
theorem applied_rule {e : StandardRule → ρ} (he : StandardRule.Loading e) {a : Aquarium ρ δ σ}
    {store : ConfigStore τ} {id : SlotId} {s : ControllerSlot ρ} {r : StandardRule}
    (happlied : a.ending store ⟨.controller, id⟩ = .ok .applied)
    (hid : a.controllers.get? id = some s) (hrule : s.rule = e r) :
    ∃ record p s' r', (store.readRecord (Label.text ⟨.controller, id⟩)).1 = .ok (some record) ∧
      r.describe record.payload.val = .ok p ∧
      (a.restoreAll store).state.controllers.get? id = some s' ∧ s'.rule = e r' ∧
      r'.parameters = p.confined := by
  rw [a.ending_controller store id s hid] at happlied
  obtain ⟨record, hfound, htaken⟩ := ConfigStore.taken_of_applied happlied
  rw [ControllerSlot.take, hrule, he.load] at htaken
  obtain ⟨loaded, hloaded, hs'⟩ := Except.map_eq_ok htaken
  obtain ⟨⟨r', used⟩, hload, rfl⟩ := Except.map_eq_ok hloaded
  have hparameters := r.load_eq record.payload.val
  rw [hload] at hparameters
  obtain ⟨p, hp, hsame⟩ := Except.map_eq_ok hparameters.symm
  refine ⟨record, p, (s.restore store id).state, r', hfound, hp, ?_, ?_, ?_⟩
  · rw [get?_controllers_restoreAll, hid, Option.map_some]
  · rw [ControllerSlot.restore, ← hs']
  · exact (congrArg Prod.snd hsame).symm

/-! ## What objects take over -/

/-- Restoring applies a record to the standard rule in a place, and the record describes these
parameters. -/
def Retunes (e : StandardRule → ρ) (a : Aquarium ρ δ σ) (store : ConfigStore τ) (id : SlotId)
    (p : RuleParameters) : Prop :=
  a.ending store ⟨.controller, id⟩ = .ok .applied ∧
    ∃ s r record, a.controllers.get? id = some s ∧ s.rule = e r ∧
      (store.readRecord (Label.text ⟨.controller, id⟩)).1 = .ok (some record) ∧
      r.describe record.payload.val = .ok p

/-- The object with a label took its record over when everything was restored, and has this id
since: in the parameters of a standard rule, or as the controller of an actuator. -/
inductive TakesOver (e : StandardRule → ρ) (a : Aquarium ρ δ σ) (store : ConfigStore τ) :
    Label → Link → Prop
  | rule {id : SlotId} {s s' : ControllerSlot ρ} {r r' : StandardRule} {l : Link}
      (happlied : a.ending store ⟨.controller, id⟩ = .ok .applied)
      (hid : a.controllers.get? id = some s) (hrule : s.rule = e r)
      (hid' : (a.restoreAll store).state.controllers.get? id = some s') (hrule' : s'.rule = e r')
      (hl : l ∈ r'.parameters.links) : TakesOver e a store ⟨.controller, id⟩ l
  | actuator {id : SlotId} {s' : ActuatorSlot δ}
      (happlied : a.ending store ⟨.actuator, id⟩ = .ok .applied)
      (hid' : (a.restoreAll store).state.actuators.get? id = some s') :
      TakesOver e a store ⟨.actuator, id⟩ ⟨.controller, s'.controller⟩

/-- A rule takes over what its record describes, less the ids that it leaves out. -/
theorem takesOver_rule_iff {e : StandardRule → ρ} (he : StandardRule.Loading e)
    (a : Aquarium ρ δ σ) (store : ConfigStore τ) (id : SlotId) (l : Link) :
    a.TakesOver e store ⟨.controller, id⟩ l ↔
      ∃ p, a.Retunes e store id p ∧ l ∈ p.confined.links := by
  constructor
  · intro h
    cases h with
    | @rule _ s s' r r' _ happlied hid hrule hid' hrule' hl =>
      obtain ⟨record, p, s'', r'', hfound, hp, hid'', hrule'', hparameters⟩ :=
        applied_rule he happlied hid hrule
      obtain rfl : s'' = s' := Option.some.inj (hid''.symm.trans hid')
      obtain rfl : r'' = r' := he.injective _ _ (hrule''.symm.trans hrule')
      exact ⟨p, ⟨happlied, s, r, record, hid, hrule, hfound, hp⟩, hparameters ▸ hl⟩
  · rintro ⟨p, ⟨happlied, s, r, record, hid, hrule, hfound, hp⟩, hl⟩
    obtain ⟨record', p', s', r', hfound', hp', hid', hrule', hparameters⟩ :=
      applied_rule he happlied hid hrule
    obtain rfl : record' = record :=
      Option.some.inj (Except.ok.inj (hfound'.symm.trans hfound))
    obtain rfl : p' = p := Except.ok.inj (hp'.symm.trans hp)
    exact .rule happlied hid hrule hid' hrule' (hparameters ▸ hl)

/-- An actuator takes over the controller that its record names, whatever it is. -/
theorem takesOver_actuator_iff {e : StandardRule → ρ} (a : Aquarium ρ δ σ) (store : ConfigStore τ)
    (id : SlotId) (l : Link) :
    a.TakesOver e store ⟨.actuator, id⟩ l ↔
      ∃ c, a.Reassigns store id c ∧ l = ⟨.controller, c⟩ := by
  constructor
  · intro h
    cases h with
    | @actuator _ s' happlied hid' =>
      refine ⟨s'.controller, ⟨happlied, ?_⟩, rfl⟩
      rw [get?_restoreAll] at hid'
      obtain ⟨s, hid, rfl⟩ := Option.map_eq_some_iff.mp hid'
      rw [a.ending_actuator store id s hid] at happlied
      rcases s.controller_restore store id with ⟨-, r, hfound, hr⟩ | ⟨hother, -⟩
      · exact ⟨r, hfound, hr.symm⟩
      · exact absurd happlied hother
  · rintro ⟨c, hgiven, rfl⟩
    obtain ⟨s', hid', rfl⟩ := hgiven.controller_restoreAll
    exact .actuator hgiven.1 hid'

/-- The ids that thermostats and top-up rules take over are confined, whatever is stored. -/
theorem TakesOver.confined {e : StandardRule → ρ} (he : StandardRule.Loading e)
    {a : Aquarium ρ δ σ} {store : ConfigStore τ} {id : SlotId} {l : Link}
    (h : a.TakesOver e store ⟨.controller, id⟩ l) {s : ControllerSlot ρ} {r : StandardRule}
    (hid : a.controllers.get? id = some s) (hrule : s.rule = e r) (hkind : r.kind ≠ .schedule) :
    l.Confined := by
  obtain ⟨p, ⟨-, s', r', record, hid', hrule', -, hp⟩, hl⟩ :=
    (a.takesOver_rule_iff he store id l).mp h
  obtain rfl : s' = s := Option.some.inj (hid'.symm.trans hid)
  obtain rfl : r' = r := he.injective _ _ (hrule'.symm.trans hrule)
  exact RuleParameters.links_confined (StandardRule.kind_of_describe hp ▸ hkind) l hl

/-- **Restoring confines the ids of thermostats and top-up rules, and no others.**  Whatever the
store holds, an id that a thermostat or a top-up rule takes over from its record names a place of
its registry, or none.  All ids that are taken over do so exactly if every record that is applied to
a schedule names only actuators that the registry has room for, or none, in all its timers, and
every record that is applied to an actuator names such a controller. -/
theorem restored_links_confined_iff {e : StandardRule → ρ} (he : StandardRule.Loading e)
    (a : Aquarium ρ δ σ) (store : ConfigStore τ) :
    (∀ id s r, a.controllers.get? id = some s → s.rule = e r → r.kind ≠ .schedule →
      ∀ l, a.TakesOver e store ⟨.controller, id⟩ l → l.Confined) ∧
    ((∀ label l, a.TakesOver e store label l → l.Confined) ↔
      (∀ id timers, a.Retunes e store id (.schedule timers) →
        ∀ t ∈ timers, Link.Confined ⟨.actuator, t.actuator⟩) ∧
      ∀ id c, a.Reassigns store id c → Link.Confined ⟨.controller, c⟩) := by
  refine ⟨fun id s r hid hrule hkind l h => h.confined he hid hrule hkind, ?_, ?_⟩
  · intro hall
    constructor
    · intro id timers htuned t ht
      refine hall ⟨.controller, id⟩ _ ((a.takesOver_rule_iff he store id _).mpr ⟨_, htuned, ?_⟩)
      exact List.mem_map_of_mem (Vector.mem_toList_iff.mpr ht)
    · intro id c hgiven
      exact hall ⟨.actuator, id⟩ _ ((a.takesOver_actuator_iff store id _).mpr ⟨c, hgiven, rfl⟩)
  · rintro ⟨htimers, hcontrollers⟩ ⟨tag, id⟩ l h
    cases tag with
    | actuator =>
      obtain ⟨c, hgiven, rfl⟩ := (a.takesOver_actuator_iff store id l).mp h
      exact hcontrollers id c hgiven
    | controller =>
      obtain ⟨p, htuned, hl⟩ := (a.takesOver_rule_iff he store id l).mp h
      by_cases hkind : p.kind = .schedule
      · obtain ⟨timers, rfl⟩ := RuleParameters.eq_schedule hkind
        obtain ⟨t, ht, rfl⟩ := List.mem_map.mp hl
        exact htimers id timers htuned t (Vector.mem_toList_iff.mp ht)
      · exact RuleParameters.links_confined hkind l hl
    | sensor => cases h

/-- Place 100, which no registry has. -/
def nowhere : SlotId := .ofNat 100

theorem not_confined_nowhere (tag : Tag) : ¬ Link.Confined ⟨tag, nowhere⟩ := by
  intro h
  have hlt := h 100 rfl
  cases tag <;> revert hlt <;> decide

/-- A thermostat, a schedule and a relay that all refer to place 100. -/
def misled : Aquarium AnyRule Relay Probe :=
  let thermostat : Thermostat := { Thermostat.default with sensor := nowhere, heater := nowhere }
  let schedule : Schedule := ⟨Schedule.default.channels.map fun c =>
    { c with timer := { c.timer with actuator := nowhere } }⟩
  let bare : Aquarium AnyRule Relay Probe := ((empty.placeController
    (.fresh "thermostat" (.standard (.thermostat thermostat)))).state.placeController
    (.fresh "schedule" (.standard (.schedule schedule)))).state
  { bare with
    actuators := (Rig.create .unassigned (.script Script.default) [(nowhere, false)]).actuators }

/-- What it saves. -/
def misleading : ConfigStore Memory :=
  (misled.saveAll blankStore).state

/-- The ids in the parameters of the standard rule in a place. -/
def linksAt (a : Aquarium AnyRule Relay Probe) (id : SlotId) : Option (List Link) :=
  (a.controllers.get? id).bind fun s =>
    match s.rule with
    | .standard r => some r.parameters.links
    | .script _ => none

theorem rule_of_linksAt {a : Aquarium AnyRule Relay Probe} {id : SlotId} {links : List Link}
    (h : a.linksAt id = some links) :
    ∃ s r, a.controllers.get? id = some s ∧ s.rule = .standard r ∧ r.parameters.links = links := by
  obtain ⟨s, hid, hs⟩ := Option.bind_eq_some_iff.mp h
  cases hrule : s.rule with
  | standard r =>
    rw [hrule] at hs
    exact ⟨s, r, hid, hrule, Option.some.inj hs⟩
  | script r =>
    rw [hrule] at hs
    cases hs

theorem applied_of_toOption {a : Aquarium AnyRule Relay Probe} {store : ConfigStore Memory}
    {l : Label} (h : (a.ending store l).toOption = some .applied) :
    a.ending store l = .ok .applied :=
  Except.eq_ok_of_toOption h

theorem TakesOver.of_linksAt {a : Aquarium AnyRule Relay Probe} {store : ConfigStore Memory}
    {id : SlotId} {links links' : List Link} {l : Link}
    (hended : (a.ending store ⟨.controller, id⟩).toOption = some .applied)
    (h : a.linksAt id = some links) (h' : (a.restoreAll store).state.linksAt id = some links')
    (hl : l ∈ links') : a.TakesOver AnyRule.standard store ⟨.controller, id⟩ l := by
  obtain ⟨s, r, hid, hrule, -⟩ := rule_of_linksAt h
  obtain ⟨s', r', hid', hrule', rfl⟩ := rule_of_linksAt h'
  exact .rule (applied_of_toOption hended) hid hrule hid' hrule' hl

theorem loading_standard : StandardRule.Loading AnyRule.standard where
  injective _ _ h := AnyRule.standard.inj h
  load _ _ := rfl

/-- The thermostat takes its record over, but has no sensor and no heater then. -/
theorem misled_thermostat_is_put_right :
    StandardRule.Loading AnyRule.standard ∧
      misled.linksAt (.ofNat 0) =
        some [⟨.sensor, nowhere⟩, ⟨.actuator, nowhere⟩, ⟨.actuator, .unassigned⟩] ∧
      misled.TakesOver AnyRule.standard misleading ⟨.controller, .ofNat 0⟩
        ⟨.sensor, .unassigned⟩ ∧
      ∀ l, misled.TakesOver AnyRule.standard misleading ⟨.controller, .ofNat 0⟩ l →
        l.Confined := by
  have hlinks : misled.linksAt (.ofNat 0) =
      some [⟨.sensor, nowhere⟩, ⟨.actuator, nowhere⟩, ⟨.actuator, .unassigned⟩] := by
    decide +kernel
  have hlinks' : (misled.restoreAll misleading).state.linksAt (.ofNat 0) =
      some [⟨.sensor, .unassigned⟩, ⟨.actuator, .unassigned⟩, ⟨.actuator, .unassigned⟩] := by
    decide +kernel
  refine ⟨loading_standard, hlinks,
    .of_linksAt (by decide +kernel) hlinks hlinks' List.mem_cons_self, ?_⟩
  exact (restored_links_confined_iff loading_standard misled misleading).1 (.ofNat 0) _ _ rfl rfl
    (by decide)

/-- **Place 100 comes back out of the store.**  All three records are applied.  The timers of the
schedule then switch the actuator in place 100, of 24 places, and the relay is assigned to the
controller in place 100, of 8 places. -/
theorem nowhere_is_restored :
    (misled.restoreAll misleading).answer = ⟨3, 0, 0, 0⟩ ∧
      misled.TakesOver AnyRule.standard misleading ⟨.controller, .ofNat 1⟩ ⟨.actuator, nowhere⟩ ∧
      ¬ Link.Confined ⟨.actuator, nowhere⟩ ∧
      misled.TakesOver AnyRule.standard misleading ⟨.actuator, .ofNat 0⟩ ⟨.controller, nowhere⟩ ∧
      ¬ Link.Confined ⟨.controller, nowhere⟩ := by
  have hlinks : misled.linksAt (.ofNat 1) = some (List.replicate 4 ⟨.actuator, nowhere⟩) := by
    decide +kernel
  have hlinks' : (misled.restoreAll misleading).state.linksAt (.ofNat 1) =
      some (List.replicate 4 ⟨.actuator, nowhere⟩) := by
    decide +kernel
  have hassigned : ((misled.restoreAll misleading).state.actuators.get? (.ofNat 0)).map
      ActuatorSlot.controller = some nowhere := by
    decide +kernel
  obtain ⟨s', hid', hcontroller⟩ := Option.map_eq_some_iff.mp hassigned
  refine ⟨by decide +kernel, .of_linksAt (by decide +kernel) hlinks hlinks' List.mem_cons_self,
    not_confined_nowhere _, ?_, not_confined_nowhere _⟩
  rw [← hcontroller]
  exact .actuator (applied_of_toOption (by decide +kernel)) hid'

end Aquarium

end AquariumControl
