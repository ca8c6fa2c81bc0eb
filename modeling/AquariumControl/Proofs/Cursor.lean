import Mathlib.Data.List.Basic
import AquariumControl.Proofs.Occupancy

/-!
# The cursor of a registry

The cursor is advanced call by call, and between two advances anything may happen to the registry:
occupants come, go and are changed.  The cursor itself knows nothing but the number of the place it
has come to.

* `Registry.next_of_le`, `next_of_free`, `next_of_taken` — an advance, place by place.
* `Registry.Yields`, `Registry.Ends` — the two ways an advance can come out
  (`Registry.yields_or_ends`).
* `Registry.perform_cases` — what any call other than a reset does to the cursor; everything after
  it is an induction over calls that uses nothing else.
* `Registry.answers`, `Registry.yields` — what the cursor answers to the advances among some calls.
* `Registry.answers_next` — advances alone yield the entries.
* `Registry.cursor_meets_everyone_once` — who is met between one reset and the next.
-/

set_option autoImplicit false

namespace AquariumControl

namespace Registry

universe u

variable {α : Type u} {capacity : Nat}

/-! ## One advance -/

theorem next_of_le {r : Registry α capacity} (h : capacity ≤ r.cursor) :
    r.next = (none, r.exhaust) := by
  rw [next, List.drop_eq_nil_of_le (r.length_slots.symm ▸ h)]
  rfl

/-- A free place is passed over. -/
theorem next_of_free {r : Registry α capacity} (hlt : r.cursor < capacity)
    (h : r.get? (.ofNat r.cursor) = none) :
    r.next = { r with cursor := r.cursor + 1 }.next := by
  have hlen : r.cursor < r.slots.length := r.length_slots.symm ▸ hlt
  have hslot : r.slots[r.cursor] = none := (r.get?_ofNat_eq hlen).symm.trans h
  rw [next, next, List.drop_eq_getElem_cons hlen, hslot, List.findIdx?_cons]
  dsimp only [Option.isSome_none]
  cases (r.slots.drop (r.cursor + 1)).findIdx? Option.isSome with
  | none => rfl
  | some k =>
    have hadd : r.cursor + (k + 1) = r.cursor + 1 + k := by omega
    simp only [Bool.false_eq_true, if_false, Option.map_some, hadd]
    rfl

/-- The occupant of a taken place is yielded. -/
theorem next_of_taken {r : Registry α capacity} {a : α} (hlt : r.cursor < capacity)
    (h : r.get? (.ofNat r.cursor) = some a) :
    r.next = (some (.ofNat r.cursor, a), { r with cursor := r.cursor + 1 }) := by
  have hlen : r.cursor < r.slots.length := r.length_slots.symm ▸ hlt
  have hslot : r.slots[r.cursor] = some a := (r.get?_ofNat_eq hlen).symm.trans h
  rw [next, List.drop_eq_getElem_cons hlen, hslot, List.findIdx?_cons]
  simp only [Option.isSome_some, if_true, Nat.add_zero, h, Option.map_some]

/-- An advance yields the occupant `a` of place `i`, the first one at or after the cursor. -/
structure Yields (r : Registry α capacity) (i : Nat) (a : α) : Prop where
  le : r.cursor ≤ i
  lt : i < capacity
  occupied : r.get? (.ofNat i) = some a
  free : ∀ k, r.cursor ≤ k → k < i → r.get? (.ofNat k) = none
  next_eq : r.next = (some (.ofNat i, a), { r with cursor := i + 1 })

/-- An advance finds nobody any more. -/
structure Ends (r : Registry α capacity) : Prop where
  free : ∀ k, r.cursor ≤ k → k < capacity → r.get? (.ofNat k) = none
  next_eq : r.next = (none, r.exhaust)

/-- **All that an advance can do.** -/
theorem yields_or_ends (r : Registry α capacity) : (∃ i a, r.Yields i a) ∨ r.Ends := by
  -- the places still ahead of the cursor
  induction hahead : capacity - r.cursor generalizing r with
  | zero =>
    have hend : capacity ≤ r.cursor := by omega
    exact .inr ⟨fun k hk hlt => absurd hlt (by omega), next_of_le hend⟩
  | succ n ih =>
    have hlt : r.cursor < capacity := by omega
    cases hget : r.get? (.ofNat r.cursor) with
    | some a =>
      exact .inl ⟨r.cursor, a, Nat.le_refl _, hlt, hget, fun k hk hki => absurd hki (by omega),
        next_of_taken hlt hget⟩
    | none =>
      have hnext := next_of_free hlt hget
      have hfirst : ∀ k, r.cursor ≤ k → k = r.cursor ∨ r.cursor + 1 ≤ k := fun k hk => by omega
      rcases ih { r with cursor := r.cursor + 1 } (by simp only; omega) with ⟨i, a, h⟩ | h
      · refine .inl ⟨i, a, Nat.le_of_succ_le h.le, h.lt, h.occupied, fun k hk hki => ?_,
          hnext.trans h.next_eq⟩
        rcases hfirst k hk with rfl | hk
        · exact hget
        · exact h.free k hk hki
      · refine .inr ⟨fun k hk hki => ?_, hnext.trans h.next_eq⟩
        rcases hfirst k hk with rfl | hk
        · exact hget
        · exact h.free k hk hki

/-! ## One call -/

theorem cursor_modify (r : Registry α capacity) (id : SlotId) (f : α → α) :
    (r.modify id f).cursor = r.cursor := by
  cases id with
  | unassigned => rfl
  | slot i =>
    cases hget : r.get? (.slot i) <;> simp only [modify, hget, setSlot]

/-- What the cursor answers to a call; only an advance asks it. -/
def told (r : Registry α capacity) : Call α → Option (Option (SlotId × α))
  | .next _ => some r.next.1
  | _ => none

/-- **One call, seen from the cursor.**  Only an advance moves it, behind whom it yields or to the
end. -/
theorem perform_cases (r : Registry α capacity) {c : Call α} (hc : c ≠ .rewind) :
    (r.told c = none ∧ (r.perform c).2.cursor = r.cursor) ∨
    (∃ i a, r.Yields i a ∧ r.told c = some (some (.ofNat i, a)) ∧
      (r.perform c).2.cursor = i + 1) ∨
    (r.Ends ∧ r.told c = some none ∧ (r.perform c).2.cursor = capacity) := by
  cases c with
  | rewind => exact absurd rfl hc
  | add a =>
    refine .inl ⟨rfl, ?_⟩
    cases hadd : r.add a with
    | none => simp only [perform, hadd]
    | some p =>
      obtain ⟨i, -, -, hr⟩ := eq_of_add hadd
      simp only [perform, hadd, hr, setSlot]
  | remove id =>
    refine .inl ⟨rfl, ?_⟩
    cases hremove : r.remove id with
    | none => simp only [perform, hremove]
    | some p =>
      obtain ⟨i, -, -, -, hr⟩ := eq_of_remove hremove
      simp only [perform, hremove, hr, setSlot]
  | change id f => exact .inl ⟨rfl, r.cursor_modify id f⟩
  | next f =>
    right
    rcases r.yields_or_ends with ⟨i, a, h⟩ | h
    · refine .inl ⟨i, a, h, by rw [told, h.next_eq], ?_⟩
      simp only [perform, h.next_eq, cursor_modify]
    · refine .inr ⟨h, by rw [told, h.next_eq], ?_⟩
      simp only [perform, h.next_eq, exhaust]

/-! ## All calls -/

/-- What the cursor answers to the advances among some calls. -/
def answers (r : Registry α capacity) : List (Call α) → List (Option (SlotId × α))
  | [] => []
  | c :: rest => (r.told c).toList ++ (r.perform c).2.answers rest

/-- Whom the cursor yields in some calls. -/
def yields (r : Registry α capacity) (calls : List (Call α)) : List (SlotId × α) :=
  (r.answers calls).filterMap id

theorem answers_append (r : Registry α capacity) (early late : List (Call α)) :
    r.answers (early ++ late) = r.answers early ++ (r.after early).answers late := by
  induction early generalizing r with
  | nil => rfl
  | cons c rest ih =>
    rw [List.cons_append, answers, answers, ih, List.append_assoc]
    rfl

theorem yields_append (r : Registry α capacity) (early late : List (Call α)) :
    r.yields (early ++ late) = r.yields early ++ (r.after early).yields late := by
  rw [yields, answers_append, List.filterMap_append]
  rfl

theorem yields_cons (r : Registry α capacity) (c : Call α) (rest : List (Call α)) :
    r.yields (c :: rest) = (r.told c).join.toList ++ (r.perform c).2.yields rest := by
  rw [yields, answers, List.filterMap_append]
  rcases r.told c with _ | _ | e <;> rfl

/-- **Whom the cursor yields, it yields in ascending order** of the places, from where it is. -/
theorem ascending_yields {calls : List (Call α)} (hcalls : ∀ c ∈ calls, c ≠ .rewind)
    (r : Registry α capacity) :
    (r.yields calls).Pairwise (fun e e' => e.1.toInt < e'.1.toInt) ∧
      ∀ e ∈ r.yields calls, ∃ i, r.cursor ≤ i ∧ i < capacity ∧ e.1 = .ofNat i := by
  induction calls generalizing r with
  | nil => exact ⟨.nil, fun e he => absurd he List.not_mem_nil⟩
  | cons c rest ih =>
    obtain ⟨hc, hrest⟩ := List.forall_mem_cons.mp hcalls
    obtain ⟨hpair, hfrom⟩ := ih hrest (r.perform c).2
    rw [yields_cons]
    rcases r.perform_cases hc with
      ⟨htold, hcursor⟩ | ⟨i, a, hi, htold, hcursor⟩ | ⟨-, htold, hcursor⟩ <;>
      rw [htold] <;> rw [hcursor] at hfrom
    · exact ⟨hpair, hfrom⟩
    · have hle := hi.le
      have hlt := hi.lt
      have hcap := r.capacity_le
      refine ⟨List.pairwise_cons.mpr ⟨fun e he => ?_, hpair⟩, List.forall_mem_cons.mpr
        ⟨⟨i, hle, hlt, rfl⟩, fun e he => ?_⟩⟩ <;>
        obtain ⟨k, hk, hklt, hplace⟩ := hfrom e he
      · rw [hplace, SlotId.ofNat_of_lt (by omega : i < 128),
          SlotId.ofNat_of_lt (by omega : k < 128)]
        exact Int.ofNat_lt.mpr hk
      · exact ⟨k, by omega, hklt, hplace⟩
    · refine ⟨hpair, fun e he => ?_⟩
      obtain ⟨k, hk, hklt, -⟩ := hfrom e he
      omega

/-- At the end the cursor finds nobody, whoever comes. -/
theorem answers_of_le {calls : List (Call α)} (hcalls : ∀ c ∈ calls, c ≠ .rewind)
    {r : Registry α capacity} (hend : capacity ≤ r.cursor) :
    ∀ answer ∈ r.answers calls, answer = none := by
  induction calls generalizing r with
  | nil => exact List.forall_mem_nil _
  | cons c rest ih =>
    obtain ⟨hc, hrest⟩ := List.forall_mem_cons.mp hcalls
    rw [answers]
    rcases r.perform_cases hc with
      ⟨htold, hcursor⟩ | ⟨i, a, hi, -, -⟩ | ⟨-, htold, hcursor⟩
    · rw [htold]
      exact ih hrest (hcursor ▸ hend)
    · have hle := hi.le
      have hlt := hi.lt
      omega
    · rw [htold]
      exact List.forall_mem_cons.mpr ⟨rfl, ih hrest (Nat.le_of_eq hcursor.symm)⟩

/-- **After an advance that found nobody, none finds anybody.** -/
theorem answers_after_none {calls : List (Call α)} (hcalls : ∀ c ∈ calls, c ≠ .rewind)
    (r : Registry α capacity) {front back : List (Option (SlotId × α))}
    (h : r.answers calls = front ++ none :: back) : ∀ answer ∈ back, answer = none := by
  induction calls generalizing r front with
  | nil => simp [answers] at h
  | cons c rest ih =>
    obtain ⟨hc, hrest⟩ := List.forall_mem_cons.mp hcalls
    rw [answers] at h
    rcases r.perform_cases hc with
      ⟨htold, -⟩ | ⟨i, a, -, htold, -⟩ | ⟨-, htold, hcursor⟩ <;> rw [htold] at h
    · exact ih hrest _ h
    · cases front with
      | nil => cases h
      | cons first front => exact ih hrest _ (List.cons.inj h).2
    · -- this is the first advance that finds nobody, or all after it find nobody anyway
      have hlater := answers_of_le hrest (Nat.le_of_eq hcursor.symm)
      have htail : (r.perform c).2.answers rest = (front ++ none :: back).tail := by
        rw [← h]
        rfl
      refine fun answer hmem => hlater answer ?_
      rw [htail]
      cases front with
      | nil => exact hmem
      | cons first front => exact List.mem_append_right _ (List.mem_cons_of_mem _ hmem)

/-- **Who stays is met once**: if a place is taken all along and the cursor then comes to the end,
it has yielded the occupant once if the place was still ahead of it, and otherwise not. -/
theorem count_yields {calls : List (Call α)} (hcalls : ∀ c ∈ calls, c ≠ .rewind)
    {r : Registry α capacity} {i : Nat} (hi : i < capacity) (hanswers : none ∉ r.answers calls)
    (hend : (r.after calls).Ends)
    (hstays : ∀ n, (r.after (calls.take n)).contains (.ofNat i) = true) :
    ((r.yields calls).map Prod.fst).count (.ofNat i) = if r.cursor ≤ i then 1 else 0 := by
  induction calls generalizing r with
  | nil =>
    have hhere : r.contains (.ofNat i) = true := hstays 0
    have hend : r.Ends := hend
    rw [if_neg fun hle => ?_]
    · rfl
    · rw [contains, hend.free i hle hi] at hhere
      cases hhere
  | cons c rest ih =>
    obtain ⟨hc, hrest⟩ := List.forall_mem_cons.mp hcalls
    have hhere : r.contains (.ofNat i) = true := hstays 0
    rw [answers, List.mem_append, not_or] at hanswers
    have hcount := ih hrest hanswers.2 hend fun n => hstays (n + 1)
    rw [yields_cons]
    rcases r.perform_cases hc with
      ⟨htold, hcursor⟩ | ⟨j, a, hj, htold, hcursor⟩ | ⟨-, htold, -⟩
    · rw [htold, ← hcursor]
      exact hcount
    · -- nobody was passed over, so the place is this one or one still ahead
      have hpassed : r.cursor ≤ i → j ≤ i := fun hle => Nat.le_of_not_lt fun hlt => by
        rw [contains, hj.free i hle hlt] at hhere
        cases hhere
      have hle := hj.le
      have hlt := hj.lt
      have hcap := r.capacity_le
      have hsame : (SlotId.ofNat j == .ofNat i) = decide (j = i) := by
        rw [Bool.eq_iff_iff, beq_iff_eq, decide_eq_true_eq]
        exact ⟨SlotId.ofNat_inj (by omega) (by omega), congrArg _⟩
      rw [htold, Option.join_some, Option.toList_some, List.singleton_append, List.map_cons,
        List.count_cons, hcount, hcursor, hsame]
      simp only [decide_eq_true_eq]
      split <;> split <;> split <;> omega
    · rw [htold] at hanswers
      exact absurd List.mem_cons_self hanswers.1

/-! ## Nothing but advances -/

/-- The occupants that are still ahead of the cursor. -/
def ahead (r : Registry α capacity) : List (SlotId × α) :=
  (List.range' r.cursor (capacity - r.cursor)).filterMap fun i =>
    (r.get? (.ofNat i)).map fun a => (SlotId.ofNat i, a)

theorem ahead_rewind (r : Registry α capacity) : r.rewind.ahead = r.entries := by
  rw [ahead, entries_eq, List.range_eq_range']
  rfl

theorem Ends.ahead {r : Registry α capacity} (h : r.Ends) : r.ahead = [] := by
  refine List.filterMap_eq_nil_iff.mpr fun k hk => ?_
  rw [List.mem_range'_1] at hk
  rw [h.free k hk.1 (by omega), Option.map_none]

/-- An advance takes the first of those who are ahead. -/
theorem Yields.ahead {r r' : Registry α capacity} {i : Nat} {a : α} (h : r.Yields i a)
    (hcursor : r'.cursor = i + 1)
    (hsame : ∀ k, i < k → k < capacity → r'.get? (.ofNat k) = r.get? (.ofNat k)) :
    r.ahead = (.ofNat i, a) :: r'.ahead := by
  have hle := h.le
  have hlt := h.lt
  have hsplit : List.range' r.cursor (capacity - r.cursor) =
      List.range' r.cursor (i - r.cursor) ++ i :: List.range' (i + 1) (capacity - (i + 1)) := by
    have hrest : i :: List.range' (i + 1) (capacity - (i + 1)) =
        List.range' (r.cursor + (i - r.cursor)) (capacity - i) := by
      rw [← List.range'_succ]
      congr 1 <;> omega
    rw [hrest, List.range'_append_1]
    congr 1
    omega
  have hskipped : (List.range' r.cursor (i - r.cursor)).filterMap (fun k =>
      (r.get? (.ofNat k)).map fun a => (SlotId.ofNat k, a)) = [] := by
    refine List.filterMap_eq_nil_iff.mpr fun k hk => ?_
    rw [List.mem_range'_1] at hk
    rw [h.free k hk.1 (by omega), Option.map_none]
  rw [Registry.ahead, hsplit, List.filterMap_append, hskipped, List.nil_append,
    List.filterMap_cons, h.occupied, Registry.ahead, hcursor]
  refine congrArg (List.cons _) (List.filterMap_congr fun k hk => ?_)
  rw [List.mem_range'_1] at hk
  rw [hsame k (by omega) (by omega)]

/-- **Advances alone yield those who are ahead**, one after the other, and then nobody; it does not
matter what is done to an occupant that has been yielded. -/
theorem answers_next (fs : List (α → α)) (r : Registry α capacity) :
    r.answers (fs.map .next) = (List.range fs.length).map fun n => r.ahead[n]? := by
  induction fs generalizing r with
  | nil => rfl
  | cons f rest ih =>
    have hcap := r.capacity_le
    rw [List.map_cons, answers, ih, List.length_cons, List.range_succ_eq_map, List.map_cons,
      List.map_map]
    rcases r.yields_or_ends with ⟨i, a, h⟩ | h
    · have hle := h.le
      have hlt := h.lt
      have hahead : r.ahead = (.ofNat i, a) :: (r.perform (.next f)).2.ahead := by
        refine h.ahead (by simp only [perform, h.next_eq, cursor_modify]) fun k hk hklt => ?_
        have hne : SlotId.ofNat k ≠ .ofNat i := fun he => by
          have := SlotId.ofNat_inj (by omega) (by omega) he
          omega
        simp only [perform, h.next_eq, get?_modify, if_neg hne]
        rfl
      rw [told, h.next_eq, hahead]
      rfl
    · have hahead : (r.perform (.next f)).2.ahead = [] := by
        simp only [perform, h.next_eq, Registry.ahead, exhaust, Nat.sub_self, List.range'_zero,
          List.filterMap_nil]
      rw [told, h.next_eq, hahead, h.ahead]
      rfl

/-! ## From one reset to the next -/

/-- Nobody is yielded after the advance that found nobody. -/
theorem yields_of_ends {r : Registry α capacity} {front : List (Call α)}
    (hend : (r.after front).Ends) (f : α → α) {back : List (Call α)}
    (hback : ∀ c ∈ back, c ≠ .rewind) :
    r.yields (front ++ .next f :: back) = r.yields front := by
  have hlater : ((r.after front).perform (.next f)).2.yields back = [] := by
    refine List.filterMap_eq_nil_iff.mpr fun answer hmem => ?_
    refine answers_of_le hback ?_ answer hmem
    simp only [perform, hend.next_eq, exhaust, Nat.le_refl]
  rw [yields_append, yields_cons, hlater, told, hend.next_eq]
  exact List.append_nil _

/-- **Between two resets the cursor meets everyone once who stays**, whatever is added, removed and
changed meanwhile.  It yields ascending places, and of each the occupant that is in it at that
moment.  A place that is taken after every number of calls from the reset to the first advance that
finds nobody is yielded exactly once.  After that advance no other finds anybody.  With nothing but
advances the answers are the entries of the registry, one after the other, and then nobody. -/
theorem cursor_meets_everyone_once (r : Registry α capacity) {calls : List (Call α)}
    (hcalls : ∀ c ∈ calls, c ≠ .rewind) :
    (r.rewind.yields calls).Pairwise (fun e e' => e.1.toInt < e'.1.toInt) ∧
    (∀ front f back e, calls = front ++ .next f :: back →
      (r.rewind.after front).next.1 = some e → (r.rewind.after front).get? e.1 = some e.2) ∧
    (∀ front f back id, calls = front ++ .next f :: back →
      none ∉ r.rewind.answers front → (r.rewind.after front).next.1 = none →
      (∀ n, (r.rewind.after (front.take n)).contains id = true) →
      ((r.rewind.yields calls).map Prod.fst).count id = 1) ∧
    (∀ front back, r.rewind.answers calls = front ++ none :: back →
      ∀ answer ∈ back, answer = none) ∧
    ∀ fs : List (α → α),
      r.rewind.answers (fs.map .next) = (List.range fs.length).map fun n => r.entries[n]? := by
  refine ⟨(r.rewind.ascending_yields hcalls).1, fun front f back e _ hnext => ?_,
    fun front f back id hsplit hnone hend hstays => ?_,
    fun front back h => r.rewind.answers_after_none hcalls h, fun fs => ?_⟩
  · rcases (r.rewind.after front).yields_or_ends with ⟨i, a, h⟩ | h <;> rw [h.next_eq] at hnext
    · obtain rfl := Option.some.inj hnext
      exact h.occupied
    · cases hnext
  · obtain ⟨i, hi, rfl⟩ := (exists_of_contains (hstays 0)).2
    subst hsplit
    obtain ⟨hfront, hrest⟩ := List.forall_mem_append.mp hcalls
    rcases (r.rewind.after front).yields_or_ends with ⟨j, a, h⟩ | h
    · rw [h.next_eq] at hend
      cases hend
    · rw [yields_of_ends h f (List.forall_mem_cons.mp hrest).2,
        count_yields hfront hi hnone h hstays]
      exact if_pos (Nat.zero_le i)
  · rw [answers_next, ahead_rewind]

/-- Three occupants, and calls that free a place behind the cursor and fill it again, replace an
occupant ahead of it, and fill the last place just before the cursor comes there. -/
def crowd : Registry Nat 4 :=
  (empty (by decide)).after [.add 5, .add 7, .add 9]

/-- The calls up to the advance that finds nobody. -/
def bustle : List (Call Nat) :=
  [.next id, .remove (.ofNat 0), .add 8, .next id, .remove (.ofNat 2), .add 6, .next id, .add 4,
    .next id]

/-- Whoever came to a place behind the cursor is not met; the second occupant, who stayed, is met
once. -/
theorem bustle_is_survived :
    (∀ c ∈ bustle ++ [.next id, .remove (.ofNat 3), .add 3, .next id], c ≠ .rewind) ∧
      crowd.rewind.answers (bustle ++ [.next id, .remove (.ofNat 3), .add 3, .next id]) =
        [some (.ofNat 0, 5), some (.ofNat 1, 7), some (.ofNat 2, 6), some (.ofNat 3, 4), none,
          none] ∧
      (∀ n, (crowd.rewind.after (bustle.take n)).contains (.ofNat 1) = true) ∧
      ((crowd.rewind.yields
        (bustle ++ [.next id, .remove (.ofNat 3), .add 3, .next id])).map Prod.fst).count
          (.ofNat 1) = 1 := by
  have hcalls : ∀ c ∈ bustle ++ [.next id, .remove (.ofNat 3), .add 3, .next id],
      c ≠ .rewind := by
    simp [bustle]
  have hstays : ∀ n, (crowd.rewind.after (bustle.take n)).contains (.ofNat 1) = true := by
    intro n
    rcases Nat.lt_or_ge n 9 with hn | hn
    · exact (by decide : ∀ n < 9,
        (crowd.rewind.after (bustle.take n)).contains (.ofNat 1) = true) n hn
    · rw [List.take_of_length_le hn]
      decide
  obtain ⟨-, -, honce, -, -⟩ := cursor_meets_everyone_once crowd hcalls
  exact ⟨hcalls, by decide, hstays, honce bustle id _ (.ofNat 1) rfl (by decide) (by decide) hstays⟩

end Registry

end AquariumControl
