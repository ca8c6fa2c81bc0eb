/-!
# Tables

A table holds at most one value per key.  It is described by what each operation does to `get?`.
-/

set_option autoImplicit false

namespace AquariumControl

/-- Keys with their values; of several entries with one key the first counts. -/
structure Table (κ ν : Type) where
  entries : List (κ × ν)

namespace Table

variable {κ ν : Type} [DecidableEq κ]

def empty : Table κ ν := ⟨[]⟩

/-- The value in the first entry with a key. -/
def lookup (k : κ) : List (κ × ν) → Option ν
  | [] => none
  | e :: rest => if k = e.1 then some e.2 else lookup k rest

def get? (t : Table κ ν) (k : κ) : Option ν :=
  lookup k t.entries

def contains (t : Table κ ν) (k : κ) : Bool :=
  (t.get? k).isSome

def erase (t : Table κ ν) (k : κ) : Table κ ν :=
  ⟨t.entries.filter fun e => e.1 ≠ k⟩

/-- Replaces the value of a key. -/
def put (t : Table κ ν) (k : κ) (v : ν) : Table κ ν :=
  ⟨(k, v) :: (t.erase k).entries⟩

@[simp] theorem get?_empty (k : κ) : (empty : Table κ ν).get? k = none := rfl

theorem get?_erase (t : Table κ ν) (k k' : κ) :
    (t.erase k).get? k' = if k' = k then none else t.get? k' := by
  obtain ⟨entries⟩ := t
  induction entries with
  | nil => simp [erase, get?, lookup]
  | cons e rest ih =>
    simp only [erase, get?, List.filter_cons, lookup] at ih ⊢
    by_cases he : e.1 = k
    · by_cases hk : k' = k
      · simpa [he, hk] using ih
      · simpa [he, hk] using ih
    · by_cases hk : k' = e.1
      · have hne : ¬k' = k := fun h => he (hk.symm.trans h)
        simp [he, lookup, hk]
      · simpa [he, lookup, hk] using ih

theorem get?_put (t : Table κ ν) (k k' : κ) (v : ν) :
    (t.put k v).get? k' = if k' = k then some v else t.get? k' := by
  have h := get?_erase t k k'
  by_cases hk : k' = k
  · simp [put, get?, lookup, hk]
  · rw [if_neg hk] at h ⊢
    rw [← h]
    simp [put, get?, lookup, hk]

end Table

end AquariumControl
