import AquariumControl.Proofs.Group
import AquariumControl.Rule.Schedule

/-!
# What a schedule does to its outputs

The timers of a schedule are run one after the other.  Where no two of them have the same actuator,
none undoes what another did, so a run can be described timer by timer.  Where some do, the last
command counts.

* `Channel.run_cases` — all that running one timer can do.
* `Channel.Wired` — the closed setting for one timer: it has no actuator, or one that its controller
  commands through a faithful driver.
* `Channel.Tracks` — the invariant for one timer: once what it wants has been applied, the output is
  where the timer says.
* `Schedule.perform_channels` — a run of all timers: what becomes of them (`Timer.evaluated`), that
  each is tracked afterwards, and that nobody else's output is touched.
* `Channel.lastCall` — what the last timer wants that has a command for an actuator.
* `Schedule.perform_shared` — a run of any timers with drivers that always work: every timer has
  applied what it wants, and every output is where the last command put it.
-/

set_option autoImplicit false

namespace AquariumControl

variable {δ : Type} [Actuator δ]

/-- A timer after it was evaluated; one without an actuator never is. -/
def Timer.evaluated (t : Timer) (now : TimeOfDay) : Timer :=
  if t.actuator.isAssigned then { t with active := t.wantsOn now } else t

@[simp] theorem Timer.actuator_evaluated (t : Timer) (now : TimeOfDay) :
    (t.evaluated now).actuator = t.actuator := by
  rw [evaluated]
  split <;> rfl

/-- What a timer wants is up to its weekdays and windows. -/
@[simp] theorem Timer.wantsOn_evaluated (t : Timer) (now later : TimeOfDay) :
    (t.evaluated now).wantsOn later = t.wantsOn later := by
  rw [evaluated]
  split <;> rfl

theorem Timer.active_evaluated {t : Timer} (ha : t.actuator.isAssigned = true) (now : TimeOfDay) :
    (t.evaluated now).active = t.wantsOn now := by
  rw [evaluated, if_pos ha]

namespace Channel

/-- If the timer has an actuator, the controller commands it through a faithful driver. -/
def Wired (c : SlotId) (p : Plant δ) (ch : Channel) : Prop :=
  ch.timer.actuator.isAssigned = true → p.Reliable c ch.timer.actuator

/-- Once what the timer wants has been applied, the output is where the timer says. -/
def Tracks (p : Plant δ) (ch : Channel) : Prop :=
  ch.timer.actuator.isAssigned = true → ch.applied = true →
    p.isOn ch.timer.actuator = ch.timer.active

/-- What the timer wants has changed, or was never applied: it has a command to give. -/
def due (now : TimeOfDay) (ch : Channel) : Bool :=
  decide (ch.timer.wantsOn now ≠ ch.timer.active ∨ ch.applied = false)

/-- A timer that is not due has applied what it wants. -/
theorem due_eq_false_iff {now : TimeOfDay} {ch : Channel} :
    ch.due now = false ↔ ch.timer.wantsOn now = ch.timer.active ∧ ch.applied = true := by
  rw [due, decide_eq_false_iff_not, not_or, ne_eq, Decidable.not_not, Bool.not_eq_false]

/-- A timer gives its command if its actuator is the controller's and it is due. -/
theorem run_eq (now : TimeOfDay) (ch : Channel) :
    run now ch = (do
      let owned ← Command.owns ch.timer.actuator
      if owned = true ∧ ch.due now = true then
        let ok ← Command.switch ch.timer.actuator (ch.timer.wantsOn now)
        pure ⟨{ ch.timer with active := ch.timer.wantsOn now }, ok⟩
      else
        pure ch) := by
  rw [run]
  refine bind_congr fun owned => ?_
  cases owned with
  | false => rfl
  | true => simp only [if_true, true_and, due, decide_eq_true_eq]

theorem perform_run (c : SlotId) (p : Plant δ) (ch : Channel) (now : TimeOfDay) :
    (run now ch).perform c p =
      if p.owns c ch.timer.actuator = true ∧ ch.due now = true then
        (⟨{ ch.timer with active := ch.timer.wantsOn now },
            (p.switch c ch.timer.actuator (ch.timer.wantsOn now)).1⟩,
          (p.switch c ch.timer.actuator (ch.timer.wantsOn now)).2)
      else (ch, p) := by
  rw [run_eq, Command.perform_bind, Command.perform_owns]
  split
  · rw [Command.perform_bind, Command.perform_switch, Command.perform_pure]
  · rw [Command.perform_pure]

theorem requests_run (c : SlotId) (p : Plant δ) (ch : Channel) (now : TimeOfDay) :
    (run now ch).requests c p =
      if p.owns c ch.timer.actuator = true ∧ ch.due now = true then
        [.one ch.timer.actuator (ch.timer.wantsOn now)
          (p.switch c ch.timer.actuator (ch.timer.wantsOn now)).1]
      else [] := by
  rw [run_eq, Command.requests_bind, Command.requests_owns, Command.perform_owns, List.nil_append]
  split
  · rw [Command.requests_bind, Command.requests_switch, Command.requests_pure, List.append_nil]
  · rw [Command.requests_pure]

omit [Actuator δ] in
/-- No controller owns the place of a timer without an actuator. -/
theorem not_owns_of_unassigned (c : SlotId) (p : Plant δ) {id : SlotId}
    (h : id.isAssigned = false) : p.owns c id = false := by
  cases id with
  | unassigned => rfl
  | slot i => cases h

/-- **All that running one timer can do**: nothing because it has no actuator, nothing because what
it wants was applied already, or one command. -/
theorem run_cases {c : SlotId} {p : Plant δ} {ch : Channel} (hw : ch.Wired c p) (now : TimeOfDay) :
    (ch.timer.actuator.isAssigned = false ∧ (run now ch).perform c p = (ch, p)) ∨
    (ch.timer.actuator.isAssigned = true ∧ ch.timer.wantsOn now = ch.timer.active ∧
      ch.applied = true ∧ (run now ch).perform c p = (ch, p)) ∨
    (ch.timer.actuator.isAssigned = true ∧
      (run now ch).perform c p =
        (⟨{ ch.timer with active := ch.timer.wantsOn now },
            (p.switch c ch.timer.actuator (ch.timer.wantsOn now)).1⟩,
          (p.switch c ch.timer.actuator (ch.timer.wantsOn now)).2)) := by
  rw [perform_run]
  cases ha : ch.timer.actuator.isAssigned with
  | false =>
    refine .inl ⟨rfl, if_neg fun h => ?_⟩
    rw [not_owns_of_unassigned c p ha] at h
    cases h.1
  | true =>
    cases hdue : ch.due now with
    | true => exact .inr (.inr ⟨rfl, if_pos ⟨(hw ha).owns, rfl⟩⟩)
    | false =>
      obtain ⟨hwant, happlied⟩ := due_eq_false_iff.mp hdue
      exact .inr (.inl ⟨rfl, hwant, happlied, if_neg fun h => nomatch h.2⟩)

/-- Running a timer evaluates it. -/
theorem timer_run {c : SlotId} {p : Plant δ} {ch : Channel} (hw : ch.Wired c p) (now : TimeOfDay) :
    ((run now ch).perform c p).1.timer = ch.timer.evaluated now := by
  rw [Timer.evaluated]
  rcases run_cases hw now with ⟨ha, h⟩ | ⟨ha, hwant, -, h⟩ | ⟨ha, h⟩
  · rw [h, ha]
    rfl
  · rw [h, if_pos ha, hwant]
  · rw [h, if_pos ha]

/-- Running a timer leaves it tracked, whether or not its command was refused. -/
theorem tracks_run {c : SlotId} {p : Plant δ} {ch : Channel} (hw : ch.Wired c p)
    (ht : ch.Tracks p) (now : TimeOfDay) :
    ((run now ch).perform c p).1.Tracks ((run now ch).perform c p).2 := by
  rcases run_cases hw now with ⟨-, h⟩ | ⟨-, -, -, h⟩ | ⟨ha, h⟩ <;> rw [h]
  · exact ht
  · exact ht
  · intro _ happlied
    have haccepted : (p.switch c ch.timer.actuator (ch.timer.wantsOn now)).1 = true := happlied
    have hon := (hw ha).isOn_switch (ch.timer.wantsOn now)
    rw [haccepted, if_pos rfl] at hon
    exact hon

/-- Running a timer touches no other output. -/
theorem get?_run_of_ne {c : SlotId} {p : Plant δ} {ch : Channel} (hw : ch.Wired c p)
    (now : TimeOfDay) {j : SlotId} (hj : j.isAssigned = true → j ≠ ch.timer.actuator) :
    ((run now ch).perform c p).2.actuators.get? j = p.actuators.get? j := by
  rcases run_cases hw now with ⟨-, h⟩ | ⟨-, -, -, h⟩ | ⟨ha, h⟩ <;> rw [h]
  cases j with
  | unassigned => rfl
  | slot i => exact p.get?_switch_of_ne c _ (hj rfl)

end Channel

/-! ## All timers -/

/-- The actuators of timers, without those that have none. -/
def Channel.outputs (chs : List Channel) : List SlotId :=
  (chs.map fun ch => ch.timer.actuator).filter SlotId.isAssigned

namespace Schedule

/-- The actuators of the timers. -/
def outputs (r : Schedule) : List SlotId :=
  Channel.outputs r.channels.toList

theorem mem_outputs {chs : List Channel} {ch : Channel} (hch : ch ∈ chs)
    (ha : ch.timer.actuator.isAssigned = true) : ch.timer.actuator ∈ Channel.outputs chs :=
  List.mem_filter.mpr ⟨List.mem_map_of_mem hch, ha⟩

/-- The actuator of the first timer is none of the others'. -/
theorem nodup_outputs_cons {ch : Channel} {rest : List Channel}
    (hnodup : (Channel.outputs (ch :: rest)).Nodup) :
    (Channel.outputs rest).Nodup ∧
      ∀ other ∈ rest, other.timer.actuator.isAssigned = true →
        other.timer.actuator ≠ ch.timer.actuator := by
  rw [Channel.outputs, List.map_cons, List.filter_cons] at hnodup
  split at hnodup
  · obtain ⟨hnot, hrest⟩ := List.nodup_cons.mp hnodup
    refine ⟨hrest, fun other hmem ha he => hnot ?_⟩
    rw [← he]
    exact mem_outputs hmem ha
  · next hnone =>
    refine ⟨hnodup, fun other _ ha he => hnone ?_⟩
    rw [← he]
    exact ha

theorem isOn_of_get? {p q : Plant δ} {id : SlotId}
    (h : q.actuators.get? id = p.actuators.get? id) : q.isOn id = p.isOn id := by
  rw [Plant.isOn, Plant.isOn, h]

theorem reliable_of_get? {c : SlotId} {p q : Plant δ} {id : SlotId}
    (h : q.actuators.get? id = p.actuators.get? id) (hp : p.Reliable c id) : q.Reliable c id := by
  rw [Plant.Reliable, h]
  exact hp

/-- The timers after the first find their actuators as they were before it was run. -/
theorem get?_rest {c : SlotId} {p : Plant δ} {ch : Channel} {rest : List Channel}
    (hnodup : (Channel.outputs (ch :: rest)).Nodup) (hw : ch.Wired c p) (now : TimeOfDay) :
    ∀ other ∈ rest, other.timer.actuator.isAssigned = true →
      ((Channel.run now ch).perform c p).2.actuators.get? other.timer.actuator =
        p.actuators.get? other.timer.actuator :=
  fun other hmem ha =>
    Channel.get?_run_of_ne hw now fun _ => (nodup_outputs_cons hnodup).2 other hmem ha

theorem wired_rest {c : SlotId} {p : Plant δ} {ch : Channel} {rest : List Channel}
    (hnodup : (Channel.outputs (ch :: rest)).Nodup)
    (hw : ∀ other ∈ ch :: rest, other.Wired c p) (now : TimeOfDay) :
    ∀ other ∈ rest, other.Wired c ((Channel.run now ch).perform c p).2 :=
  fun other hmem ha =>
    reliable_of_get? (get?_rest hnodup (hw ch List.mem_cons_self) now other hmem ha)
      (hw other (List.mem_cons_of_mem _ hmem) ha)

/-- **A run of timers with different actuators.**  Every timer is evaluated and is tracked
afterwards, and no other output is touched. -/
theorem perform_channels {c : SlotId} (now : TimeOfDay) :
    ∀ (chs : List Channel) (p : Plant δ), (Channel.outputs chs).Nodup →
      (∀ ch ∈ chs, ch.Wired c p) → (∀ ch ∈ chs, ch.Tracks p) →
      ((chs.mapM (Channel.run now)).perform c p).1.map Channel.timer =
          chs.map (fun ch => ch.timer.evaluated now) ∧
        (∀ ch ∈ ((chs.mapM (Channel.run now)).perform c p).1,
          ch.Tracks ((chs.mapM (Channel.run now)).perform c p).2) ∧
        ∀ id, id ∉ Channel.outputs chs →
          ((chs.mapM (Channel.run now)).perform c p).2.actuators.get? id = p.actuators.get? id
  | [], p, _, _, _ => by
    rw [List.mapM_nil, Command.perform_pure]
    exact ⟨rfl, fun ch hch => absurd hch List.not_mem_nil, fun _ _ => rfl⟩
  | ch :: rest, p, hnodup, hw, ht => by
    obtain ⟨hrest, hne⟩ := nodup_outputs_cons hnodup
    have hwch := hw ch List.mem_cons_self
    have htch := ht ch List.mem_cons_self
    rw [List.mapM_cons]
    simp only [Command.perform_bind, Command.perform_pure]
    obtain ⟨htimers, htracks, hothers⟩ := perform_channels now rest
      ((Channel.run now ch).perform c p).2 hrest (wired_rest hnodup hw now)
      (fun other hmem ha happlied => by
        rw [isOn_of_get? (get?_rest hnodup hwch now other hmem ha)]
        exact ht other (List.mem_cons_of_mem _ hmem) ha happlied)
    refine ⟨?_, ?_, fun id hid => ?_⟩
    · rw [List.map_cons, List.map_cons, htimers, Channel.timer_run hwch]
    · intro done hdone
      rcases List.mem_cons.mp hdone with rfl | hdone
      · intro ha happlied
        have hid : ((Channel.run now ch).perform c p).1.timer.actuator = ch.timer.actuator := by
          rw [Channel.timer_run hwch, Timer.actuator_evaluated]
        have hkept := hothers ch.timer.actuator fun hmem => by
          obtain ⟨hmap, -⟩ := List.mem_filter.mp hmem
          obtain ⟨other, hother, he⟩ := List.mem_map.mp hmap
          rw [hid] at ha
          exact hne other hother (he ▸ ha) he
        rw [hid, isOn_of_get? hkept, ← hid]
        exact Channel.tracks_run hwch htch now ha happlied
      · exact htracks done hdone
    · have hnot : id ∉ Channel.outputs rest := fun hmem => hid (by
        obtain ⟨hmap, ha⟩ := List.mem_filter.mp hmem
        exact List.mem_filter.mpr ⟨List.mem_cons_of_mem _ hmap, ha⟩)
      rw [hothers id hnot]
      refine Channel.get?_run_of_ne hwch now fun ha he => hid ?_
      rw [he]
      exact mem_outputs List.mem_cons_self (he ▸ ha)

/-- Running the timers in their places is running them in a list. -/
theorem toList_mapM {α β : Type} {n : Nat} (f : α → Command β) (v : Vector α n) :
    Vector.toList <$> v.mapM f = v.toList.mapM f := by
  have harray : Vector.toArray <$> v.mapM f = List.toArray <$> v.toList.mapM f := by
    rw [Vector.toArray_mapM, Array.mapM_eq_mapM_toList]
    rfl
  have h := congrArg (Array.toList <$> ·) harray
  simp only [Functor.map_map, id_map'] at h
  exact h

/-- A run of a schedule is a run of the list of its timers. -/
theorem perform_run {c : SlotId} (r : Schedule) {s : Situation} {now : TimeOfDay}
    (hnow : s.timeOfDay = some now) (p : Plant δ) :
    ((r.run s).perform c p).1.1 = .ran ∧
      ((r.run s).perform c p).1.2.channels.toList =
        ((r.channels.toList.mapM (Channel.run now)).perform c p).1 ∧
      ((r.run s).perform c p).2 = ((r.channels.toList.mapM (Channel.run now)).perform c p).2 := by
  have hperform := congrArg (fun program => program.perform c p)
    (toList_mapM (Channel.run now) r.channels)
  simp only [Command.perform_map] at hperform
  rw [run, hnow]
  simp only [Command.perform_bind, Command.perform_pure]
  exact ⟨trivial, congrArg Prod.fst hperform, congrArg Prod.snd hperform⟩

theorem requests_run {c : SlotId} (r : Schedule) {s : Situation} {now : TimeOfDay}
    (hnow : s.timeOfDay = some now) (p : Plant δ) :
    (r.run s).requests c p = (r.channels.toList.mapM (Channel.run now)).requests c p := by
  have hrequests := congrArg (fun program => program.requests c p)
    (toList_mapM (Channel.run now) r.channels)
  simp only [Command.requests_map] at hrequests
  rw [run, hnow, ← hrequests]
  simp only [Command.requests_bind, Command.requests_pure, List.append_nil]

end Schedule

/-! ## Timers with drivers that always work -/

namespace Channel

/-- A timer after it was evaluated and has applied what it wants; one without an actuator never
does. -/
def settled (now : TimeOfDay) (ch : Channel) : Channel :=
  if ch.timer.actuator.isAssigned then ⟨{ ch.timer with active := ch.timer.wantsOn now }, true⟩
  else ch

@[simp] theorem actuator_settled (now : TimeOfDay) (ch : Channel) :
    (ch.settled now).timer.actuator = ch.timer.actuator := by
  rw [settled]
  split <;> rfl

/-- The timers that have a command for an actuator, in the order in which they give it. -/
def callers (now : TimeOfDay) (id : SlotId) (chs : List Channel) : List Channel :=
  chs.filter fun ch => decide (ch.timer.actuator = id ∧ ch.due now = true)

/-- What the last timer wants that has a command for an actuator; `none` if none has one. -/
def lastCall (now : TimeOfDay) (id : SlotId) (chs : List Channel) : Option Bool :=
  (callers now id chs).getLast?.map fun ch => ch.timer.wantsOn now

/-- The later timers overrule the first one. -/
theorem lastCall_cons (now : TimeOfDay) (id : SlotId) (ch : Channel) (rest : List Channel)
    (on : Bool) :
    (lastCall now id (ch :: rest)).getD on =
      (lastCall now id rest).getD
        (if ch.timer.actuator = id ∧ ch.due now = true then ch.timer.wantsOn now else on) := by
  rw [lastCall, callers, List.filter_cons]
  by_cases hcall : ch.timer.actuator = id ∧ ch.due now = true
  · rw [if_pos (decide_eq_true hcall), if_pos hcall, List.getLast?_cons, lastCall, callers]
    cases List.getLast? _ <;> rfl
  · rw [if_neg (by simpa using hcall), if_neg hcall]
    rfl

/-- **One timer whose driver always works.**  It has then applied what it wants, and its command
reached its own actuator only. -/
theorem perform_run_of_dependable {c : SlotId} {p : Plant δ} {ch : Channel}
    (hd : ch.timer.actuator.isAssigned = true → p.Dependable c ch.timer.actuator)
    (now : TimeOfDay) :
    ((run now ch).perform c p).1 = ch.settled now ∧
      (∀ id, p.Dependable c id → ((run now ch).perform c p).2.Dependable c id) ∧
      ∀ id, id.isAssigned = true → ((run now ch).perform c p).2.isOn id =
        if ch.timer.actuator = id ∧ ch.due now = true then ch.timer.wantsOn now
        else p.isOn id := by
  rw [perform_run, settled]
  cases ha : ch.timer.actuator.isAssigned with
  | false =>
    have hno := not_owns_of_unassigned c p ha
    rw [if_neg fun h => by rw [hno] at h; cases h.1]
    refine ⟨rfl, fun _ h => h, fun id hid => ?_⟩
    rw [if_neg]
    rintro ⟨rfl, -⟩
    rw [ha] at hid
    cases hid
  | true =>
    have hdch := hd ha
    cases hdue : ch.due now with
    | false =>
      obtain ⟨hwant, happlied⟩ := due_eq_false_iff.mp hdue
      have hsame : ch = ⟨{ ch.timer with active := ch.timer.wantsOn now }, true⟩ := by
        rw [hwant, ← happlied]
      rw [if_neg fun h => nomatch h.2]
      exact ⟨hsame, fun _ h => h, fun id _ => (if_neg fun h => nomatch h.2).symm⟩
    | true =>
      rw [if_pos ⟨hdch.reliable.owns, rfl⟩, if_pos rfl, hdch.switch_answer]
      refine ⟨rfl, fun id h => h.switch c _ _, fun id _ => ?_⟩
      by_cases hid : ch.timer.actuator = id
      · rw [if_pos ⟨hid, rfl⟩, ← hid, hdch.reliable.isOn_switch, hdch.switch_answer, if_pos rfl]
      · rw [if_neg fun h => hid h.1, Plant.isOn_switch_of_ne _ _ _ (Ne.symm hid)]

end Channel

namespace Schedule

/-- **A run of timers that may share their outputs.**  With drivers that always work every timer has
then applied what it wants, and every output is where the last command put it. -/
theorem perform_shared {c : SlotId} (now : TimeOfDay) :
    ∀ (chs : List Channel) (p : Plant δ),
      (∀ ch ∈ chs, ch.timer.actuator.isAssigned = true → p.Dependable c ch.timer.actuator) →
      ((chs.mapM (Channel.run now)).perform c p).1 = chs.map (Channel.settled now) ∧
        ∀ id, id.isAssigned = true →
          ((chs.mapM (Channel.run now)).perform c p).2.isOn id =
            (Channel.lastCall now id chs).getD (p.isOn id)
  | [], p, _ => by
    rw [List.mapM_nil, Command.perform_pure]
    exact ⟨rfl, fun _ _ => rfl⟩
  | ch :: rest, p, hd => by
    rw [List.mapM_cons]
    simp only [Command.perform_bind, Command.perform_pure]
    obtain ⟨hch, hdep, hon⟩ := Channel.perform_run_of_dependable (hd ch List.mem_cons_self) now
    obtain ⟨hrest, honrest⟩ := perform_shared now rest ((Channel.run now ch).perform c p).2
      fun other hmem ha => hdep _ (hd other (List.mem_cons_of_mem _ hmem) ha)
    refine ⟨?_, fun id hid => ?_⟩
    · rw [List.map_cons, hch, hrest]
    · rw [honrest id hid, hon id hid, Channel.lastCall_cons]

/-- Every timer has applied what it wants. -/
theorem applied_channels {c : SlotId} (now : TimeOfDay) (chs : List Channel) (p : Plant δ)
    (hd : ∀ ch ∈ chs, ch.timer.actuator.isAssigned = true → p.Dependable c ch.timer.actuator) :
    ∀ ch ∈ ((chs.mapM (Channel.run now)).perform c p).1,
      ch.timer.actuator.isAssigned = true → ch.applied = true := by
  rw [(perform_shared now chs p hd).1]
  intro ch hch ha
  obtain ⟨old, -, rfl⟩ := List.mem_map.mp hch
  rw [Channel.actuator_settled] at ha
  rw [Channel.settled, if_pos ha]

/-! ## Schedules that have applied nothing -/

theorem not_applied_reset (r : Schedule) : ∀ ch ∈ r.reset.channels.toList, ch.applied = false := by
  intro ch hch
  rw [reset, Vector.toList_map] at hch
  obtain ⟨_, -, rfl⟩ := List.mem_map.mp hch
  rfl

theorem not_applied_of_load {r r' : Schedule} {bytes : List UInt8} {used : Nat}
    (hload : Rule.load r bytes = .ok (r', used)) :
    ∀ ch ∈ r'.channels.toList, ch.applied = false := by
  change load bytes = .ok (r', used) at hload
  rw [load] at hload
  split at hload
  · cases hload
  · split at hload
    · cases hload
      intro ch hch
      rw [Vector.toList_map] at hch
      obtain ⟨t, -, rfl⟩ := List.mem_map.mp hch
      rfl
    · cases hload

end Schedule

end AquariumControl
