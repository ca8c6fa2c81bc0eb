import AquariumControl.Aquarium.Basic
import AquariumControl.Proofs.Registry

/-!
# Labels as keys

The record of an object is stored under the text of its label, so two objects must never have the
same text.  `Label.text_inj` says that the text tells the kind and the place, for every label with a
place; the objects of an aquarium have such labels, each one its own (`Aquarium.nodup_keys`).
-/

set_option autoImplicit false

namespace AquariumControl

namespace Label

theorem toDigits_inj {m n : Nat} (h : Nat.toDigits 10 m = Nat.toDigits 10 n) : m = n := by
  rw [← Nat.ofDigitChars_ten_toDigits (n := m), h, Nat.ofDigitChars_ten_toDigits]

/-- A letter and a decimal number: the text of a label with a place. -/
theorem toList_text (tag : Tag) (i : Fin 128) :
    (text ⟨tag, .slot i⟩).toList = tag.letter.toList ++ Nat.toDigits 10 i.val := by
  rw [text, String.toList_append]
  exact congrArg _ Nat.toList_repr

/-- **The text of a label tells the kind and the place.** -/
theorem text_inj {l l' : Label} (hl : l.id.isAssigned = true) (hl' : l'.id.isAssigned = true)
    (h : l.text = l'.text) : l = l' := by
  obtain ⟨tag, id⟩ := l
  obtain ⟨tag', id'⟩ := l'
  cases id with
  | unassigned => cases hl
  | slot i =>
    cases id' with
    | unassigned => cases hl'
    | slot j =>
      have hlists := congrArg String.toList h
      rw [toList_text, toList_text] at hlists
      have hletters : ∀ t : Tag, t.letter.toList.length = 1 := by
        intro t
        cases t <;> rfl
      obtain ⟨hletter, hdigits⟩ :=
        List.append_inj hlists ((hletters tag).trans (hletters tag').symm)
      have htag : tag = tag' := by
        cases tag <;> cases tag' <;> first | rfl | exact absurd hletter (by decide)
      rw [htag, Fin.ext (toDigits_inj hdigits)]

end Label

/-! ## The labels of an aquarium -/

namespace Registry

variable {α : Type} {capacity : Nat}

/-- The labels of all occupied places in ascending order. -/
def labels (r : Registry α capacity) (tag : Tag) : List Label :=
  (List.range capacity).filterMap fun i =>
    if r.contains (SlotId.ofNat i) then some ⟨tag, SlotId.ofNat i⟩ else none

theorem labels_eq (r : Registry α capacity) (tag : Tag) :
    r.labels tag = r.entries.map fun e => ⟨tag, e.1⟩ := by
  rw [labels, entries, places_eq, List.filterMap_map, List.map_filterMap]
  refine congrFun (congrArg List.filterMap (funext fun i => ?_)) _
  rw [contains, Function.comp_apply]
  cases r.get? (SlotId.ofNat i) <;> rfl

theorem mem_labels (r : Registry α capacity) {tag : Tag} {l : Label} :
    l ∈ r.labels tag ↔ l.tag = tag ∧ r.contains l.id = true := by
  obtain ⟨tag', id⟩ := l
  simp only [labels_eq, List.mem_map, Prod.exists, mem_entries, Label.mk.injEq, contains,
    Option.isSome_iff_exists]
  constructor
  · rintro ⟨id, a, ha, rfl, rfl⟩
    exact ⟨rfl, a, ha⟩
  · rintro ⟨rfl, a, ha⟩
    exact ⟨id, a, ha, rfl, rfl⟩

theorem nodup_labels (r : Registry α capacity) (tag : Tag) : (r.labels tag).Nodup := by
  have h := r.nodup_entries
  rw [List.Nodup, List.pairwise_map] at h
  rw [labels_eq, List.Nodup, List.pairwise_map]
  exact h.imp fun hne hsame => hne (Label.mk.inj hsame).2

theorem length_labels (r : Registry α capacity) (tag : Tag) : (r.labels tag).length = r.size := by
  rw [labels_eq, List.length_map, size_eq_length_entries]

end Registry

namespace Aquarium

variable {ρ δ σ : Type} (a : Aquarium ρ δ σ)

/-- The labels of all objects: controllers, actuators, sensors, each in ascending order. -/
def labels : List Label :=
  a.controllers.labels .controller ++ a.actuators.labels .actuator ++ a.sensors.labels .sensor

theorem length_labels :
    a.labels.length = a.controllers.size + a.actuators.size + a.sensors.size := by
  rw [labels, List.length_append, List.length_append, Registry.length_labels,
    Registry.length_labels, Registry.length_labels]

theorem mem_labels {l : Label} :
    l ∈ a.labels ↔
      (l.tag = .controller ∧ a.controllers.contains l.id = true ∨
        l.tag = .actuator ∧ a.actuators.contains l.id = true) ∨
      l.tag = .sensor ∧ a.sensors.contains l.id = true := by
  rw [labels, List.mem_append, List.mem_append, Registry.mem_labels, Registry.mem_labels,
    Registry.mem_labels]

theorem nodup_labels : a.labels.Nodup := by
  rw [labels, List.nodup_append, List.nodup_append]
  refine ⟨⟨a.controllers.nodup_labels _, a.actuators.nodup_labels _, ?_⟩,
    a.sensors.nodup_labels _, ?_⟩
  · rintro l hl _ hl' rfl
    have h := ((Registry.mem_labels _).mp hl).1.symm.trans ((Registry.mem_labels _).mp hl').1
    cases h
  · rintro l hl _ hl' rfl
    have hsensor := ((Registry.mem_labels _).mp hl').1
    rcases List.mem_append.mp hl with h | h
    · cases ((Registry.mem_labels _).mp h).1.symm.trans hsensor
    · cases ((Registry.mem_labels _).mp h).1.symm.trans hsensor

theorem isAssigned_of_mem_labels {l : Label} (h : l ∈ a.labels) : l.id.isAssigned = true := by
  obtain ⟨tag, id⟩ := l
  cases id with
  | slot i => rfl
  | unassigned =>
    rcases a.mem_labels.mp h with (⟨-, h⟩ | ⟨-, h⟩) | ⟨-, h⟩
    · cases h
    · cases h
    · cases h

/-- No two objects of an aquarium have the same key. -/
theorem nodup_keys : (a.labels.map Label.text).Nodup := by
  rw [List.Nodup, List.pairwise_map]
  refine a.nodup_labels.imp_of_mem fun hl hl' hne hsame => hne ?_
  exact Label.text_inj (a.isAssigned_of_mem_labels hl) (a.isAssigned_of_mem_labels hl') hsame

end Aquarium

end AquariumControl
