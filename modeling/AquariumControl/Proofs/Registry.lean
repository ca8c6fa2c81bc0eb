import AquariumControl.Registry

/-!
# Passing through a registry

`Registry.mapAccum` visits every occupant with a state that is carried along.  What a visit
preserves, whichever occupant it is to, the whole pass preserves (`Registry.mapAccum_induction`);
seen from one place, a pass is what happens before the visit there, the visit, and what happens
after it (`Registry.mapAccum_at`).  `Registry.entries` lists every occupant under its own place
(`Registry.mem_entries`), in ascending order (`Registry.ascending_entries`) and so none twice.
-/

set_option autoImplicit false

namespace AquariumControl

namespace Registry

universe u v

variable {α : Type u} {σ : Type v}

/-- The pass from place `i` on.  The places still ahead are numbered from `i`, which is why the
occupants are looked up at `i + k`. -/
theorem sweep_induction {P : σ → Prop} {f : σ → SlotId → α → α × σ} :
    ∀ (slots : List (Option α)) (i : Nat) (s : σ),
      (∀ k a, slots[k]? = some (some a) → ∀ t, P t → P (f t (SlotId.ofNat (i + k)) a).2) →
      P s → P (sweep f i slots s).2
  | [], _, _, _, hs => hs
  | none :: rest, i, s, hstep, hs => by
    refine sweep_induction rest (i + 1) s (fun k a hk t ht => ?_) hs
    rw [Nat.add_assoc, Nat.add_comm 1 k]
    exact hstep (k + 1) a (by simpa using hk) t ht
  | some a :: rest, i, s, hstep, hs => by
    refine sweep_induction rest (i + 1) (f s (SlotId.ofNat i) a).2 (fun k b hk t ht => ?_)
      (hstep 0 a rfl s hs)
    rw [Nat.add_assoc, Nat.add_comm 1 k]
    exact hstep (k + 1) b (by simpa using hk) t ht

theorem get?_ofNat {capacity : Nat} (r : Registry α capacity) {k : Nat} {a : α}
    (h : r.slots[k]? = some (some a)) : r.get? (SlotId.ofNat k) = some a := by
  have hk : k < r.slots.length := (List.getElem?_eq_some_iff.mp h).1
  have hcap := r.capacity_le
  rw [r.length_slots] at hk
  rw [SlotId.ofNat_of_lt (by omega), get?, h, Option.join_some]

/-- **What every visit preserves, the pass preserves.** -/
theorem mapAccum_induction {capacity : Nat} {P : σ → Prop} (r : Registry α capacity)
    {f : σ → SlotId → α → α × σ} {s : σ}
    (hstep : ∀ id a, r.get? id = some a → ∀ t, P t → P (f t id a).2) (hs : P s) :
    P (r.mapAccum f s).2 := by
  refine sweep_induction r.slots 0 s (fun k a hk t ht => ?_) hs
  rw [Nat.zero_add]
  exact hstep _ a (r.get?_ofNat hk) t ht

/-- The entries are the occupants with their places. -/
theorem mem_entries {capacity : Nat} (r : Registry α capacity) {id : SlotId} {a : α} :
    (id, a) ∈ r.entries ↔ r.get? id = some a := by
  simp only [entries, places, List.mem_filterMap, List.mem_map, Prod.exists,
    List.mk_mem_zipIdx_iff_getElem?, Option.map_eq_some_iff, Prod.mk.injEq]
  constructor
  · rintro ⟨_, _, ⟨o, i, hi, rfl, rfl⟩, b, rfl, rfl, rfl⟩
    exact r.get?_ofNat hi
  · intro h
    cases id with
    | unassigned => cases h
    | slot i =>
      exact ⟨_, _, ⟨some a, i.val, Option.join_eq_some_iff.mp h, rfl, rfl⟩, a, rfl,
        SlotId.ofNat_val i, rfl⟩

theorem get?_ofNat_eq {capacity : Nat} (r : Registry α capacity) {i : Nat}
    (hi : i < r.slots.length) : r.get? (SlotId.ofNat i) = r.slots[i] := by
  have hcap := r.capacity_le
  have hlen := r.length_slots
  rw [SlotId.ofNat_of_lt (by omega), get?, List.getElem?_eq_getElem hi, Option.join_some]

/-- A registry is listed by looking at every place. -/
theorem places_eq {capacity : Nat} (r : Registry α capacity) :
    r.places = (List.range capacity).map fun i => (SlotId.ofNat i, r.get? (SlotId.ofNat i)) := by
  refine List.ext_getElem (by simp [places, r.length_slots]) fun i hi _ => ?_
  have hslot : i < r.slots.length := by simpa [places] using hi
  simp [places, r.get?_ofNat_eq hslot]

/-- The entries, place by place. -/
theorem entries_eq {capacity : Nat} (r : Registry α capacity) :
    r.entries = (List.range capacity).filterMap fun i =>
      (r.get? (SlotId.ofNat i)).map fun a => (SlotId.ofNat i, a) := by
  rw [entries, places_eq, List.filterMap_map]
  rfl

/-- The entries are listed in ascending order of their places. -/
theorem ascending_entries {capacity : Nat} (r : Registry α capacity) :
    r.entries.Pairwise fun e e' => e.1.toInt < e'.1.toInt := by
  rw [entries_eq, List.pairwise_filterMap]
  refine List.pairwise_lt_range.imp_of_mem fun {i j} hi hj hij e he e' he' => ?_
  obtain ⟨a, -, rfl⟩ := Option.map_eq_some_iff.mp he
  obtain ⟨a', -, rfl⟩ := Option.map_eq_some_iff.mp he'
  have hcap := r.capacity_le
  rw [List.mem_range] at hi hj
  rw [SlotId.ofNat_of_lt (by omega : i < 128), SlotId.ofNat_of_lt (by omega : j < 128)]
  exact Int.ofNat_lt.mpr hij

/-- No place is listed twice. -/
theorem nodup_entries {capacity : Nat} (r : Registry α capacity) :
    (r.entries.map Prod.fst).Nodup := by
  rw [List.Nodup, List.pairwise_map]
  refine r.ascending_entries.imp fun {e e'} hlt he => ?_
  rw [he] at hlt
  exact Int.lt_irrefl _ hlt

/-! ## One place of a pass -/

/-- A pass over some places and then over others. -/
theorem sweep_append (f : σ → SlotId → α → α × σ) (back : List (Option α)) :
    ∀ (front : List (Option α)) (i : Nat) (s : σ),
      sweep f i (front ++ back) s =
        ((sweep f i front s).1 ++ (sweep f (i + front.length) back (sweep f i front s).2).1,
          (sweep f (i + front.length) back (sweep f i front s).2).2)
  | [], _, _ => rfl
  | none :: rest, i, s => by
    have ih := sweep_append f back rest (i + 1) s
    have hi : i + 1 + rest.length = i + (rest.length + 1) := by omega
    simp only [List.cons_append, sweep, ih, List.length_cons, hi]
  | some a :: rest, i, s => by
    have ih := sweep_append f back rest (i + 1) (f s (SlotId.ofNat i) a).2
    have hi : i + 1 + rest.length = i + (rest.length + 1) := by omega
    simp only [List.cons_append, sweep, ih, List.length_cons, hi]

/-- The pass up to an occupied place, the visit there, and the rest of the pass. -/
theorem sweep_split (f : σ → SlotId → α → α × σ) {slots : List (Option α)} {k : Nat} {a : α}
    (hk : slots[k]? = some (some a)) (s : σ) :
    ∃ t, t = (sweep f 0 (slots.take k) s).2 ∧
      sweep f 0 slots s =
        ((sweep f 0 (slots.take k) s).1 ++ some (f t (SlotId.ofNat k) a).1 ::
            (sweep f (k + 1) (slots.drop (k + 1)) (f t (SlotId.ofNat k) a).2).1,
          (sweep f (k + 1) (slots.drop (k + 1)) (f t (SlotId.ofNat k) a).2).2) := by
  refine ⟨_, rfl, ?_⟩
  obtain ⟨hlt, hval⟩ := List.getElem?_eq_some_iff.mp hk
  have hsplit : slots = slots.take k ++ some a :: slots.drop (k + 1) := by
    rw [← hval, List.getElem_cons_drop, List.take_append_drop]
  have hfront : (slots.take k).length = k := List.length_take_of_le (Nat.le_of_lt hlt)
  conv => lhs; rw [hsplit]
  rw [sweep_append, hfront, Nat.zero_add, sweep]

/-- **A pass seen from one place.**  If no other visit does more than `R` allows, then the state
that reaches the place is within `R` of the first one, and the last state is within `R` of the one
that the visit there leaves. -/
theorem mapAccum_at {capacity : Nat} {R : σ → σ → Prop} (hrefl : ∀ t, R t t)
    (htrans : ∀ t t' t'', R t t' → R t' t'' → R t t'') (r : Registry α capacity)
    {f : σ → SlotId → α → α × σ} {id : SlotId} {a : α} (hid : r.get? id = some a)
    (hother : ∀ j b, r.get? j = some b → j ≠ id → ∀ t, R t (f t j b).2) (s : σ) :
    ∃ t, R s t ∧ (r.mapAccum f s).1.get? id = some (f t id a).1 ∧
      R (f t id a).2 (r.mapAccum f s).2 := by
  cases id with
  | unassigned => cases hid
  | slot k =>
    have hk : r.slots[k.val]? = some (some a) := Option.join_eq_some_iff.mp hid
    have hlt : k.val < r.slots.length := (List.getElem?_eq_some_iff.mp hk).1
    -- the other visits are to places with other numbers
    have hvisit : ∀ n b, n ≠ k.val → r.slots[n]? = some (some b) → ∀ t,
        R t (f t (SlotId.ofNat n) b).2 := by
      intro n b hne hn
      have hlen := (List.getElem?_eq_some_iff.mp hn).1
      have hcap := r.capacity_le
      rw [r.length_slots] at hlen
      refine hother _ b (r.get?_ofNat hn) fun he => hne ?_
      rw [← SlotId.ofNat_val k] at he
      exact SlotId.ofNat_inj (by omega) k.isLt he
    obtain ⟨t, ht, hswept⟩ := sweep_split f hk s
    rw [SlotId.ofNat_val] at hswept
    refine ⟨t, ?_, ?_, ?_⟩
    · rw [ht]
      refine sweep_induction (P := R s) _ 0 s (fun n b hn u hu => ?_) (hrefl s)
      have hlen : n < k.val := by
        have := (List.getElem?_eq_some_iff.mp hn).1
        rw [List.length_take] at this
        omega
      rw [List.getElem?_take_of_lt hlen] at hn
      rw [Nat.zero_add]
      exact htrans _ _ _ hu (hvisit n b (Nat.ne_of_lt hlen) hn u)
    · have hlen : (sweep f 0 (r.slots.take k.val) s).1.length = k.val := by
        rw [length_sweep, List.length_take_of_le (Nat.le_of_lt hlt)]
      simp only [mapAccum, get?, hswept]
      rw [List.getElem?_append_right (Nat.le_of_eq hlen), hlen, Nat.sub_self]
      rfl
    · simp only [mapAccum, hswept]
      refine sweep_induction (P := R (f t (.slot k) a).2) _ _ _ (fun n b hn u hu => ?_) (hrefl _)
      rw [List.getElem?_drop] at hn
      exact htrans _ _ _ hu (hvisit _ b (by omega) hn u)

theorem map_isSome_sweep (f : σ → SlotId → α → α × σ) :
    ∀ (slots : List (Option α)) (i : Nat) (s : σ),
      (sweep f i slots s).1.map Option.isSome = slots.map Option.isSome
  | [], _, _ => rfl
  | none :: rest, i, s => by
    simp only [sweep, List.map_cons, map_isSome_sweep f rest]
  | some a :: rest, i, s => by
    simp only [sweep, List.map_cons, map_isSome_sweep f rest, Option.isSome_some]

/-- A pass moves nobody in or out. -/
theorem contains_mapAccum {capacity : Nat} (r : Registry α capacity) (f : σ → SlotId → α → α × σ)
    (s : σ) (id : SlotId) : (r.mapAccum f s).1.contains id = r.contains id := by
  cases id with
  | unassigned => rfl
  | slot k =>
    have h := congrArg (·[k.val]?) (map_isSome_sweep f r.slots 0 s)
    simp only [List.getElem?_map] at h
    simp only [contains, get?, mapAccum]
    cases h1 : (sweep f 0 r.slots s).1[k.val]? with
    | none =>
      cases h2 : r.slots[k.val]? with
      | none => rfl
      | some o => simp [h1, h2] at h
    | some o =>
      cases h2 : r.slots[k.val]? with
      | none => simp [h1, h2] at h
      | some o' => simpa [h1, h2] using h

/-- Where the visits to a place do not depend on the state that is carried along, each occupant
becomes what a visit alone makes of it. -/
theorem get?_mapAccum {capacity : Nat} (r : Registry α capacity) {f : σ → SlotId → α → α × σ}
    {g : SlotId → α → α} (hg : ∀ t id a, (f t id a).1 = g id a) (s : σ) (id : SlotId) :
    (r.mapAccum f s).1.get? id = (r.get? id).map (g id) := by
  cases hid : r.get? id with
  | none =>
    have h := r.contains_mapAccum f s id
    rw [contains, contains, hid, Option.isSome_none, Option.isSome_eq_false_iff,
      Option.isNone_iff_eq_none] at h
    exact h
  | some a =>
    obtain ⟨t, -, h, -⟩ := r.mapAccum_at (R := fun _ _ => True) (fun _ => trivial)
      (fun _ _ _ _ _ => trivial) hid (fun _ _ _ _ _ => trivial) (f := f) s
    rw [h, hg, Option.map_some]

theorem entries_mapAccum {capacity : Nat} (r : Registry α capacity) {f : σ → SlotId → α → α × σ}
    {g : SlotId → α → α} (hg : ∀ t id a, (f t id a).1 = g id a) (s : σ) :
    (r.mapAccum f s).1.entries = r.entries.map fun e => (e.1, g e.1 e.2) := by
  rw [entries_eq, entries_eq, List.map_filterMap]
  refine congrFun (congrArg List.filterMap (funext fun i => ?_)) _
  rw [r.get?_mapAccum hg, Option.map_map, Option.map_map]
  rfl

theorem sweep_snd (f : σ → SlotId → α → α × σ) :
    ∀ (slots : List (Option α)) (i : Nat) (s : σ),
      (sweep f i slots s).2 =
        (((slots.zipIdx i).map fun p => (SlotId.ofNat p.2, p.1)).filterMap fun p =>
          p.2.map fun a => (p.1, a)).foldl (fun t e => (f t e.1 e.2).2) s
  | [], _, _ => rfl
  | none :: rest, i, s => by
    have ih := sweep_snd f rest (i + 1) s
    simpa [sweep, List.zipIdx_cons] using ih
  | some a :: rest, i, s => by
    have ih := sweep_snd f rest (i + 1) (f s (SlotId.ofNat i) a).2
    simpa [sweep, List.zipIdx_cons] using ih

/-- The state is carried from entry to entry. -/
theorem mapAccum_snd {capacity : Nat} (r : Registry α capacity) (f : σ → SlotId → α → α × σ)
    (s : σ) : (r.mapAccum f s).2 = r.entries.foldl (fun t e => (f t e.1 e.2).2) s :=
  sweep_snd f r.slots 0 s

theorem size_eq_length_entries {capacity : Nat} (r : Registry α capacity) :
    r.size = r.entries.length := by
  have hslots : r.slots = r.places.map Prod.snd := by
    rw [places, List.map_map]
    exact (List.zipIdx_map_fst 0 r.slots).symm
  rw [size, hslots, List.countP_map, entries, List.length_filterMap_eq_countP]
  refine List.countP_congr fun p _ => ?_
  simp

/-- A registered object is found in its own place. -/
theorem find?_occupant {capacity : Nat} (r : Registry α capacity) (id : SlotId) :
    r.find? (.occupant id) = if r.contains id then some id else none := by
  rw [find?, contains]
  cases hid : r.get? id with
  | none =>
    refine List.findSome?_eq_none_iff.mpr fun e he => if_neg fun hsame => ?_
    rw [← hsame, r.mem_entries.mp he] at hid
    cases hid
  | some a =>
    have hentry : (id, a) ∈ r.entries := r.mem_entries.mpr hid
    cases hfound : r.entries.findSome? fun e => if e.1 = id then some id else none with
    | none =>
      have hnone := List.findSome?_eq_none_iff.mp hfound (id, a) hentry
      rw [if_pos rfl] at hnone
      cases hnone
    | some place =>
      obtain ⟨e, -, he⟩ := List.exists_of_findSome?_eq_some hfound
      split at he
      · exact he.symm
      · cases he

/-! ## Moving in and out -/

/-- A change in place moves nobody in or out. -/
theorem contains_modify {capacity : Nat} (r : Registry α capacity) (id : SlotId) (f : α → α)
    (j : SlotId) : (r.modify id f).contains j = r.contains j := by
  rw [contains, contains, get?_modify]
  split
  · next hj => rw [hj, Option.isSome_map]
  · rfl

/-- An addition fills a place that was free. -/
theorem free_of_addWith {capacity : Nat} {r r' : Registry α capacity} {make : SlotId → α}
    {id : SlotId} (h : r.addWith make = some (id, r')) : r.get? id = none := by
  obtain ⟨i, hfree, hi⟩ := Option.map_eq_some_iff.mp h
  obtain ⟨hlt, hnone, -⟩ := List.findIdx?_eq_some_iff_getElem.mp hfree
  rw [← (Prod.mk.inj hi).1, r.get?_ofNat_eq hlt]
  exact Option.isNone_iff_eq_none.mp hnone

theorem get?_addWith {capacity : Nat} {r r' : Registry α capacity} {make : SlotId → α}
    {id : SlotId} (h : r.addWith make = some (id, r')) (j : SlotId) :
    r'.get? j = if j = id then some (make id) else r.get? j := by
  obtain ⟨i, hfree, hi⟩ := Option.map_eq_some_iff.mp h
  obtain ⟨rfl, rfl⟩ := Prod.mk.inj hi
  have hlt : i < capacity := by
    rw [← r.length_slots]
    exact (List.findIdx?_eq_some_iff_findIdx_eq.mp hfree).1
  have hcap := r.capacity_le
  have h128 : i < 128 := by omega
  cases j with
  | unassigned => simp [SlotId.ofNat_of_lt h128]
  | slot k =>
    rw [r.get?_setSlot hlt, SlotId.ofNat_of_lt h128]
    simp only [SlotId.slot.injEq, Fin.ext_iff]

theorem get?_remove {capacity : Nat} {r r' : Registry α capacity} {a : α} {id : SlotId}
    (h : r.remove id = some (a, r')) (j : SlotId) :
    r'.get? j = if j = id then none else r.get? j := by
  cases id with
  | unassigned => cases h
  | slot i =>
    cases hget : r.get? (.slot i) with
    | none => simp [remove, hget] at h
    | some b =>
      simp only [remove, hget, Option.some.injEq, Prod.mk.injEq] at h
      obtain ⟨rfl, rfl⟩ := h
      cases j with
      | unassigned => simp
      | slot k =>
        rw [r.get?_setSlot (lt_capacity_of_get? hget)]
        simp only [SlotId.slot.injEq, Fin.ext_iff]

end Registry

end AquariumControl
