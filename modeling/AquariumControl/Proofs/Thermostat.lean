import AquariumControl.Bench.Rig
import AquariumControl.Proofs.Plant
import AquariumControl.Rule.Thermostat

/-!
# What a thermostat does to its outputs

A thermostat drives two outputs.  Its drivers may fail at any command, so what the outputs show is
not always what the thermostat is in; `synced` is its own note of whether they agree.

* `Thermostat.Wired` — the closed setting: two different outputs, both the thermostat's, with
  faithful drivers.
* `Thermostat.run_cases` — everything a run can do in that setting: nothing for want of a reading,
  nothing because all is settled, or two commands, an *off* and then whatever the new state asks
  of the other side.
* `Thermostat.Tracks` — the invariant: while `synced`, each output is on just in its own state.
* `Thermostat.Reached` — the histories that start from a fresh thermostat.
-/

set_option autoImplicit false

namespace AquariumControl

namespace Thermostat

variable {δ : Type} [Actuator δ]

/-! ## Two commands in a row -/

/-- The output that is driven off first. -/
def offSide (r : Thermostat) : SlotId :=
  if r.state = .heating then r.cooler else r.heater

/-- The output that is driven second, to whatever the state asks of it. -/
def onSide (r : Thermostat) : SlotId :=
  if r.state = .heating then r.heater else r.cooler

/-- The first command of a thermostat, with the answer to it. -/
def firstCommand (r : Thermostat) (c : SlotId) (p : Plant δ) : Bool × Plant δ :=
  p.switch c r.offSide false

/-- The second command, given after the first whatever the answer to that was. -/
def secondCommand (r : Thermostat) (c : SlotId) (p : Plant δ) : Bool × Plant δ :=
  (r.firstCommand c p).2.switch c r.onSide (r.state ≠ .idle)

/-- Driving two available outputs is two commands, and succeeds if both do. -/
theorem perform_apply (r : Thermostat) (c : SlotId) (p : Plant δ) :
    (r.apply true true).perform c p =
      ((r.firstCommand c p).1 && (r.secondCommand c p).1, (r.secondCommand c p).2) := by
  cases h : r.state <;>
    simp [apply, drive, firstCommand, secondCommand, offSide, onSide, h]

theorem requests_apply (r : Thermostat) (c : SlotId) (p : Plant δ) :
    (r.apply true true).requests c p =
      [.one r.offSide false (r.firstCommand c p).1,
        .one r.onSide (r.state ≠ .idle) (r.secondCommand c p).1] := by
  cases h : r.state <;>
    simp [apply, drive, firstCommand, secondCommand, offSide, onSide, h]

/-! ## The closed setting -/

/-- Two different outputs, both commanded by `c` through faithful drivers. -/
structure Wired (c heater cooler : SlotId) (p : Plant δ) : Prop where
  ne : heater ≠ cooler
  heater : p.Reliable c heater
  cooler : p.Reliable c cooler

theorem Wired.sides {c : SlotId} {r : Thermostat} {p : Plant δ}
    (hw : Wired c r.heater r.cooler p) :
    r.offSide ≠ r.onSide ∧ p.Reliable c r.offSide ∧ p.Reliable c r.onSide := by
  rw [offSide, onSide]
  split
  · exact ⟨hw.ne.symm, hw.cooler, hw.heater⟩
  · exact ⟨hw.ne, hw.heater, hw.cooler⟩

/-- The side that goes off stays on only if it was on and its command failed. -/
theorem isOn_offSide {c : SlotId} {r : Thermostat} {p : Plant δ}
    (hw : Wired c r.heater r.cooler p) :
    (r.secondCommand c p).2.isOn r.offSide =
      (!(r.firstCommand c p).1 && p.isOn r.offSide) := by
  obtain ⟨hne, hoff, -⟩ := hw.sides
  rw [secondCommand, Plant.isOn_switch_of_ne _ _ _ hne, firstCommand, hoff.isOn_switch]
  cases (p.switch c r.offSide false).1 <;> rfl

/-- The other side does what the state asks of it unless its command failed. -/
theorem isOn_onSide {c : SlotId} {r : Thermostat} {p : Plant δ}
    (hw : Wired c r.heater r.cooler p) :
    (r.secondCommand c p).2.isOn r.onSide =
      if (r.secondCommand c p).1 then decide (r.state ≠ .idle) else p.isOn r.onSide := by
  obtain ⟨hne, -, hon⟩ := hw.sides
  have hstill : (r.firstCommand c p).2.Reliable c r.onSide := hon.switch_of_ne hne.symm
  rw [secondCommand, hstill.isOn_switch, firstCommand, Plant.isOn_switch_of_ne _ _ _ hne.symm]

/-! ## One run -/

/-- **Everything a run can do with two outputs of its own**: it is skipped for want of a reading,
or it finds everything settled, or it takes the next state and gives both commands. -/
theorem run_cases {c : SlotId} {r : Thermostat} {p : Plant δ} (hw : Wired c r.heater r.cooler p)
    (s : Situation) :
    (s.readings.get? r.sensor = none ∧ (r.run s).perform c p = ((.skipped, r), p) ∧
      (r.run s).requests c p = []) ∨
    (∃ t, s.readings.get? r.sensor = some t ∧ r.next t true true = r.state ∧ r.synced = true ∧
      (r.run s).perform c p = ((.ran, r), p) ∧ (r.run s).requests c p = []) ∨
    ∃ t r', s.readings.get? r.sensor = some t ∧ r' = { r with state := r.next t true true } ∧
      (r'.state ≠ r.state ∨ r.synced = false) ∧
      (r.run s).perform c p =
        ((.ran, { r' with synced := (r'.firstCommand c p).1 && (r'.secondCommand c p).1 }),
          (r'.secondCommand c p).2) ∧
      (r.run s).requests c p =
        [.one r'.offSide false (r'.firstCommand c p).1,
          .one r'.onSide (r'.state ≠ .idle) (r'.secondCommand c p).1] := by
  rw [run]
  cases ht : s.readings.get? r.sensor with
  | none => exact .inl ⟨rfl, rfl, rfl⟩
  | some t =>
    simp only [Command.perform_bind, Command.perform_owns, Command.requests_bind,
      Command.requests_owns, hw.heater.owns, hw.cooler.owns, List.nil_append]
    by_cases h : r.next t true true ≠ r.state ∨ r.synced = false
    · refine .inr (.inr ⟨t, _, rfl, rfl, h, ?_, ?_⟩)
      · rw [if_pos h, Command.perform_bind, perform_apply, Command.perform_pure]
      · rw [if_pos h, Command.requests_bind, requests_apply, Command.requests_pure,
          List.append_nil]
    · rw [if_neg h]
      simp only [ne_eq, not_or, Decidable.not_not, Bool.not_eq_false] at h
      exact .inr (.inl ⟨t, rfl, h.1, h.2, rfl, rfl⟩)

/-! ## Outputs that agree with the state -/

/-- While the thermostat believes its outputs to be in order, they are: each is on just in its own
state. -/
def Tracks (r : Thermostat) (p : Plant δ) : Prop :=
  r.synced = true → p.isOn r.heater = decide (r.state = .heating) ∧
    p.isOn r.cooler = decide (r.state = .cooling)

/-- After two accepted commands the outputs are what the state asks for. -/
theorem tracks_secondCommand {c : SlotId} {r : Thermostat} {p : Plant δ}
    (hw : Wired c r.heater r.cooler p) :
    Tracks { r with synced := (r.firstCommand c p).1 && (r.secondCommand c p).1 }
      (r.secondCommand c p).2 := by
  intro hsynced
  obtain ⟨h1, h2⟩ := Bool.and_eq_true_iff.mp hsynced
  have hoff := isOn_offSide hw
  have hon := isOn_onSide hw
  rw [h1, Bool.not_true, Bool.false_and] at hoff
  rw [h2, if_pos rfl] at hon
  rw [offSide] at hoff
  rw [onSide] at hon
  cases hstate : r.state <;> simp only [hstate, reduceCtorEq, if_true, if_false] at hoff hon ⊢
  · exact ⟨hoff, hon⟩
  · exact ⟨hon, hoff⟩
  · exact ⟨hoff, hon⟩

/-- A run keeps its outputs. -/
theorem run_outputs {c : SlotId} {r : Thermostat} {p : Plant δ}
    (hw : Wired c r.heater r.cooler p) (s : Situation) :
    ((r.run s).perform c p).1.2.heater = r.heater ∧
      ((r.run s).perform c p).1.2.cooler = r.cooler := by
  rcases run_cases hw s with ⟨-, h, -⟩ | ⟨t, -, -, -, h, -⟩ | ⟨t, r', -, rfl, -, h, -⟩ <;> rw [h] <;>
    exact ⟨rfl, rfl⟩

/-- A run leaves the outputs tracked, whichever of its commands failed. -/
theorem tracks_run {c : SlotId} {r : Thermostat} {p : Plant δ}
    (hw : Wired c r.heater r.cooler p) (ht : Tracks r p) (s : Situation) :
    Tracks ((r.run s).perform c p).1.2 ((r.run s).perform c p).2 := by
  rcases run_cases hw s with ⟨-, h, -⟩ | ⟨t, -, -, -, h, -⟩ | ⟨t, r', -, rfl, -, h, -⟩ <;> rw [h]
  · exact ht
  · exact ht
  · exact tracks_secondCommand (r := { r with state := r.next t true true }) hw

/-- An evaluation with no refused command ends in order. -/
theorem synced_of_ran {c : SlotId} {r : Thermostat} {p : Plant δ}
    (hw : Wired c r.heater r.cooler p) {s : Situation}
    (hran : ((r.run s).perform c p).1.1 = .ran)
    (hok : ∀ id on, .one id on false ∉ (r.run s).requests c p) :
    ((r.run s).perform c p).1.2.synced = true := by
  rcases run_cases hw s with ⟨-, h, -⟩ | ⟨t, -, -, hsynced, h, -⟩ | ⟨t, r', -, -, -, h, hreq⟩
  · rw [h] at hran
    cases hran
  · rw [h]
    exact hsynced
  · rw [hreq] at hok
    have h1 : (r'.firstCommand c p).1 = true := by
      cases h1 : (r'.firstCommand c p).1 with
      | true => rfl
      | false => exact absurd (by rw [h1]; exact List.mem_cons_self) (hok r'.offSide false)
    have h2 : (r'.secondCommand c p).1 = true := by
      cases h2 : (r'.secondCommand c p).1 with
      | true => rfl
      | false =>
        refine absurd ?_ (hok r'.onSide (r'.state ≠ .idle))
        rw [h2]
        exact List.mem_cons_of_mem _ List.mem_cons_self
    rw [h, h1, h2]
    rfl

/-! ## Histories -/

/-- **The histories of a thermostat with a given heater and cooler**, from a fresh one on: what it
and the plant around it can come to.  A run needs the closed setting at that moment; in between,
settings may change but not the outputs, and the plant may change in any way that leaves the two
outputs as they are — drivers may begin to fail, or recover. -/
inductive Reached (c heater cooler : SlotId) : Thermostat → Plant δ → Prop
  | fresh (p : Plant δ) :
      Reached c heater cooler { default with heater := heater, cooler := cooler } p
  | run {r : Thermostat} {p : Plant δ} (s : Situation) (h : Reached c heater cooler r p)
      (hw : Wired c heater cooler p) :
      Reached c heater cooler ((r.run s).perform c p).1.2 ((r.run s).perform c p).2
  | set {r : Thermostat} {p : Plant δ} (x : Setting) (h : Reached c heater cooler r p)
      (hheater : (r.set x).heater = heater) (hcooler : (r.set x).cooler = cooler) :
      Reached c heater cooler (r.set x) p
  | reset {r : Thermostat} {p : Plant δ} (h : Reached c heater cooler r p) :
      Reached c heater cooler r.reset p
  | load {r r' : Thermostat} {p : Plant δ} {bytes : List UInt8} {used : Nat}
      (h : Reached c heater cooler r p) (hload : Rule.load r bytes = .ok (r', used))
      (hheater : r'.heater = heater) (hcooler : r'.cooler = cooler) :
      Reached c heater cooler r' p
  | elsewhere {r : Thermostat} {p p' : Plant δ} (h : Reached c heater cooler r p)
      (hheater : p'.isOn heater = p.isOn heater) (hcooler : p'.isOn cooler = p.isOn cooler) :
      Reached c heater cooler r p'

/-- Choosing an output anew takes `synced` back; no other setting concerns the outputs. -/
theorem Tracks.set {r : Thermostat} {p : Plant δ} (h : Tracks r p) (x : Setting) :
    Tracks (r.set x) p := by
  intro hsynced
  cases x with
  | heater id => cases hsynced
  | cooler id => cases hsynced
  | _ => exact h hsynced

/-- A thermostat that was just loaded does not claim anything about its outputs. -/
theorem synced_of_load {r r' : Thermostat} {bytes : List UInt8} {used : Nat}
    (h : Rule.load r bytes = .ok (r', used)) : r'.synced = false := by
  change load bytes = .ok (r', used) at h
  rw [load] at h
  split at h
  · cases h
  · split at h
    · cases h
    · cases h
      rfl

/-- **The invariant of every history.** -/
theorem Reached.tracks {c heater cooler : SlotId} {r : Thermostat} {p : Plant δ}
    (h : Reached c heater cooler r p) :
    r.heater = heater ∧ r.cooler = cooler ∧ Tracks r p := by
  induction h with
  | fresh p => exact ⟨rfl, rfl, fun hsynced => by cases hsynced⟩
  | run s _ hw ih =>
    obtain ⟨rfl, rfl, ht⟩ := ih
    exact ⟨(run_outputs hw s).1, (run_outputs hw s).2, tracks_run hw ht s⟩
  | set x _ hheater hcooler ih =>
    obtain ⟨rfl, rfl, ht⟩ := ih
    exact ⟨hheater, hcooler, ht.set x⟩
  | reset _ ih => exact ⟨ih.1, ih.2.1, fun hsynced => by cases hsynced⟩
  | load _ hload hheater hcooler ih =>
    refine ⟨hheater, hcooler, fun hsynced => ?_⟩
    rw [synced_of_load hload] at hsynced
    cases hsynced
  | elsewhere _ hheater hcooler ih =>
    obtain ⟨rfl, rfl, ht⟩ := ih
    exact ⟨rfl, rfl, fun hsynced => by rw [hheater, hcooler]; exact ht hsynced⟩

/-- **Outputs follow the state.**  At the end of any history of a thermostat with outputs of its
own, a run that has a reading evaluates it, and unless a command is refused on the way the heater
is then on just when the thermostat is heating and the cooler just when it is cooling.  A run that
is skipped changes nothing. -/
theorem outputs_follow_state {c heater cooler : SlotId} {r : Thermostat} {p : Plant δ}
    (hist : Reached c heater cooler r p) (hw : Wired c heater cooler p) (s : Situation) :
    (((r.run s).perform c p).1.1 = .ran ↔ (s.readings.get? r.sensor).isSome) ∧
    (((r.run s).perform c p).1.1 = .ran →
      (∀ id on, .one id on false ∉ (r.run s).requests c p) →
        (((r.run s).perform c p).2.isOn heater = true ↔
          ((r.run s).perform c p).1.2.state = .heating) ∧
        (((r.run s).perform c p).2.isOn cooler = true ↔
          ((r.run s).perform c p).1.2.state = .cooling) ∧
        ¬(((r.run s).perform c p).2.isOn heater = true ∧
          ((r.run s).perform c p).2.isOn cooler = true)) ∧
    (((r.run s).perform c p).1.1 = .skipped →
      ((r.run s).perform c p).1.2 = r ∧ ((r.run s).perform c p).2 = p) := by
  obtain ⟨rfl, rfl, ht⟩ := hist.tracks
  refine ⟨?_, fun hran hok => ?_, fun hskip => ?_⟩
  · rcases run_cases hw s with ⟨hr, h, -⟩ | ⟨t, hr, -, -, h, -⟩ | ⟨t, r', hr, -, -, h, -⟩ <;>
      simp [h, hr]
  · obtain ⟨hheater, hcooler⟩ := tracks_run hw ht s (synced_of_ran hw hran hok)
    rw [(run_outputs hw s).1] at hheater
    rw [(run_outputs hw s).2] at hcooler
    rw [hheater, hcooler]
    refine ⟨decide_eq_true_iff, decide_eq_true_iff, ?_⟩
    rintro ⟨h1, h2⟩
    rw [decide_eq_true_eq] at h1 h2
    rw [h1] at h2
    cases h2
  · rcases run_cases hw s with ⟨-, h, -⟩ | ⟨t, -, -, -, h, -⟩ | ⟨t, r', -, -, -, h, -⟩ <;>
      rw [h] at hskip ⊢
    · exact ⟨rfl, rfl⟩
    · cases hskip
    · cases hskip

/-- Two relays of the controller in place 0.  The first, the heater, may be on and may refuse
commands; the second, the cooler, is off and works. -/
def bench (on : Bool) (failure : FailureMode) : Plant Relay :=
  let rig := (Rig.create (.ofNat 0) (.script Script.default)
    [(.ofNat 0, on), (.ofNat 0, false)]).rewire (.ofNat 0) fun relay => { relay with failure := failure }
  ⟨rig.actuators, [], []⟩

/-- Relays are faithful whatever they refuse, so on a bench it is enough to own both. -/
theorem wired_of_owns {p : Plant Relay} (hheater : p.owns (.ofNat 0) (.ofNat 0) = true)
    (hcooler : p.owns (.ofNat 0) (.ofNat 1) = true) : Wired (.ofNat 0) (.ofNat 0) (.ofNat 1) p :=
  ⟨by decide, Plant.reliable_of_owns Relay.faithful hheater,
    Plant.reliable_of_owns Relay.faithful hcooler⟩

/-- A situation in which sensor 0 reads the value with the given bits. -/
def reading (bits : BitVec 64) : Situation :=
  ⟨.ofNat 0, Readings.empty.set (.ofNat 0) ⟨bits⟩, 0, none⟩

/-- 20 °C. -/
def cold : Situation := reading 0x4034000000000000

/-- 30 °C. -/
def warm : Situation := reading 0x403E000000000000

/-- A fresh thermostat with its sensor. -/
def fitted : Thermostat :=
  { default with heater := .ofNat 0, cooler := .ofNat 1, sensor := .ofNat 0 }

theorem reached_fitted (p : Plant Relay) : Reached (.ofNat 0) (.ofNat 0) (.ofNat 1) fitted p :=
  (Reached.fresh p).set (.sensor (.ofNat 0)) rfl rfl

/-- A thermostat that wanted to heat, in vain: the heater refused to go on. -/
def thwarted : Thermostat :=
  ((fitted.run cold).perform (.ofNat 0) (bench false .on)).1.2

/-- Once the heater has recovered, the next run brings the outputs into order. -/
theorem thwarted_heats_after_recovery :
    thwarted.synced = false ∧ Wired (.ofNat 0) (.ofNat 0) (.ofNat 1) (bench false .none) ∧
    ((thwarted.run cold).perform (.ofNat 0) (bench false .none)).1.1 = .ran ∧
    ((thwarted.run cold).perform (.ofNat 0) (bench false .none)).2.isOn (.ofNat 0) = true := by
  have hw : Wired (.ofNat 0) (.ofNat 0) (.ofNat 1) (bench false .none) :=
    wired_of_owns (by decide) (by decide)
  have hist : Reached (.ofNat 0) (.ofNat 0) (.ofNat 1) thwarted (bench false .none) :=
    ((reached_fitted (bench false .on)).run cold
      (wired_of_owns (by decide) (by decide))).elsewhere (by decide) (by decide)
  have hreq : (thwarted.run cold).requests (.ofNat 0) (bench false .none) =
      [.one (.ofNat 1) false true, .one (.ofNat 0) true true] := by decide
  have hran : ((thwarted.run cold).perform (.ofNat 0) (bench false .none)).1.1 = .ran := by decide
  have h := (outputs_follow_state hist hw cold).2.1 hran (by rw [hreq]; simp)
  exact ⟨by decide, hw, hran, h.1.mpr (by decide)⟩

/-! ## Switching over when a driver fails -/

/-- Two commands leave both sides on, which were not both on before, if the first is refused and
the second, an *on*, is not. -/
theorem both_sides_on_iff {c : SlotId} {r : Thermostat} {p : Plant δ}
    (hw : Wired c r.heater r.cooler p)
    (hnot : ¬(p.isOn r.offSide = true ∧ p.isOn r.onSide = true)) :
    ((r.secondCommand c p).2.isOn r.offSide = true ∧
        (r.secondCommand c p).2.isOn r.onSide = true) ↔
      (r.firstCommand c p).1 = false ∧ (r.secondCommand c p).1 = true ∧ r.state ≠ .idle := by
  rw [isOn_offSide hw, isOn_onSide hw, Bool.and_eq_true_iff, Bool.not_eq_true']
  constructor
  · rintro ⟨⟨hfirst, hoff⟩, hon⟩
    have hwas : p.isOn r.onSide = false := Bool.eq_false_iff.mpr fun h => hnot ⟨hoff, h⟩
    cases hsecond : (r.secondCommand c p).1 with
    | true =>
      rw [hsecond, if_pos rfl, decide_eq_true_eq] at hon
      exact ⟨hfirst, rfl, hon⟩
    | false =>
      rw [hsecond, hwas] at hon
      cases hon
  · rintro ⟨hfirst, hsecond, hstate⟩
    rw [hsecond, if_pos rfl, decide_eq_true_eq]
    exact ⟨⟨hfirst, hw.sides.2.1.isOn_of_refused hfirst⟩, hstate⟩

/-- The same with the two sides by name. -/
theorem both_on_secondCommand_iff {c : SlotId} {r : Thermostat} {p : Plant δ}
    (hw : Wired c r.heater r.cooler p)
    (hnot : ¬(p.isOn r.heater = true ∧ p.isOn r.cooler = true)) :
    ((r.secondCommand c p).2.isOn r.heater = true ∧
        (r.secondCommand c p).2.isOn r.cooler = true) ↔
      (r.firstCommand c p).1 = false ∧ (r.secondCommand c p).1 = true ∧ r.state ≠ .idle := by
  have key := both_sides_on_iff hw
  rw [offSide, onSide] at key
  split at key
  · rw [and_comm, key (fun h => hnot h.symm)]
  · exact key hnot

/-- **When both outputs end up on.**  From outputs that are not both on, a run leaves both on in
one case only: it switches over, the side that is to go off refuses, and the other side is switched
on all the same. -/
theorem both_on_iff_switchover_refused {c heater cooler : SlotId} {r : Thermostat} {p : Plant δ}
    (hheater : r.heater = heater) (hcooler : r.cooler = cooler) (hw : Wired c heater cooler p)
    (hnot : ¬(p.isOn heater = true ∧ p.isOn cooler = true)) (s : Situation) :
    (((r.run s).perform c p).2.isOn heater = true ∧
        ((r.run s).perform c p).2.isOn cooler = true) ↔
      (r.run s).requests c p = [.one cooler false false, .one heater true true] ∨
      (r.run s).requests c p = [.one heater false false, .one cooler true true] := by
  subst hheater hcooler
  rcases run_cases hw s with ⟨-, h, hreq⟩ | ⟨t, -, -, -, h, hreq⟩ | ⟨t, r', -, hr', -, h, hreq⟩
  · rw [h, hreq]
    simpa using hnot
  · rw [h, hreq]
    simpa using hnot
  · obtain ⟨hheater, hcooler⟩ : r'.heater = r.heater ∧ r'.cooler = r.cooler := by
      rw [hr']
      exact ⟨rfl, rfl⟩
    rw [← hheater, ← hcooler] at hw hnot ⊢
    rw [h, hreq, both_on_secondCommand_iff hw hnot, offSide, onSide]
    have hne := hw.ne
    cases hstate : r'.state <;> simp [hne, hne.symm]

/-- A thermostat that is heating. -/
def atWork : Thermostat :=
  ((fitted.run cold).perform (.ofNat 0) (bench false .none)).1.2

theorem reached_atWork : Reached (.ofNat 0) (.ofNat 0) (.ofNat 1) atWork (bench true .off) :=
  ((reached_fitted (bench false .none)).run cold
    (wired_of_owns (by decide) (by decide))).elsewhere (by decide) (by decide)

/-- **A heater that sticks heats against the cooler.**  The thermostat is heating, the heater
refuses to go off, and a reading above the band switches the cooler on beside it. -/
theorem stuck_heater_runs_against_cooler :
    ∃ (r : Thermostat) (p : Plant Relay), Reached (.ofNat 0) (.ofNat 0) (.ofNat 1) r p ∧
      Wired (.ofNat 0) (.ofNat 0) (.ofNat 1) p ∧
      ¬(p.isOn (.ofNat 0) = true ∧ p.isOn (.ofNat 1) = true) ∧
      ((r.run warm).perform (.ofNat 0) p).2.isOn (.ofNat 0) = true ∧
      ((r.run warm).perform (.ofNat 0) p).2.isOn (.ofNat 1) = true :=
  ⟨atWork, bench true .off, reached_atWork, wired_of_owns (by decide) (by decide), by decide,
    by decide, by decide⟩

/-- With a heater that obeys, the same reading turns it off before the cooler goes on. -/
theorem working_heater_makes_way :
    Wired (.ofNat 0) (.ofNat 0) (.ofNat 1) (bench true .none) ∧
    ¬((bench true .none).isOn (.ofNat 0) = true ∧ (bench true .none).isOn (.ofNat 1) = true) ∧
    (atWork.run warm).requests (.ofNat 0) (bench true .none) =
      [.one (.ofNat 0) false true, .one (.ofNat 1) true true] ∧
    ¬(((atWork.run warm).perform (.ofNat 0) (bench true .none)).2.isOn (.ofNat 0) = true ∧
      ((atWork.run warm).perform (.ofNat 0) (bench true .none)).2.isOn (.ofNat 1) = true) := by
  have hw : Wired (.ofNat 0) (.ofNat 0) (.ofNat 1) (bench true .none) :=
    wired_of_owns (by decide) (by decide)
  have hreq : (atWork.run warm).requests (.ofNat 0) (bench true .none) =
      [.one (.ofNat 0) false true, .one (.ofNat 1) true true] := by decide
  refine ⟨hw, by decide, hreq, ?_⟩
  rw [both_on_iff_switchover_refused (by decide) (by decide) hw (by decide) warm, hreq]
  decide

end Thermostat

end AquariumControl
