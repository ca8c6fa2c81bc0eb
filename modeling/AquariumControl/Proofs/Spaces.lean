import AquariumControl.Storage.Basic
import Mathlib.Data.List.Induction

/-!
# Spaces that share a medium

Several users can share a medium because each has a space of its own.  What they then expect is a
map from pairs: a value is found under the space and the key that it was written under, and nowhere
else.

* `MediumCall` — the calls to a medium; `held` — the value that calls have left under a space and a
  key, and `MediumCall.expected` — what a map from pairs answers.
* `Storage.Tells` — a medium that is such a map as far as some names are concerned, by one call;
  `Storage.Tells.answer_after` — by any sequence of them.
* `Flash.entryName_eq_iff` — which pairs have the same text on flash.
* `Flash.answers_by_pair_iff` — so flash is a map from pairs just for names of which no two overlap.
-/

set_option autoImplicit false

namespace AquariumControl

/-! ## Calls and their answers -/

/-- A call to a medium. -/
inductive MediumCall
  | read (space key : String) (capacity : Nat)
  | write (space key : String) (bytes : List UInt8)
  | delete (space key : String)
  | holds (space key : String)
deriving DecidableEq

/-- What a medium answers to a call. -/
inductive MediumAnswer
  /-- To reading: what came into the buffer. -/
  | found (value : Except StorageError Block)
  /-- To writing and deleting. -/
  | done (result : Except StorageError Unit)
  /-- Whether there is a value. -/
  | whether (present : Bool)

namespace MediumCall

def space : MediumCall → String
  | read space _ _ | write space _ _ | delete space _ | holds space _ => space

def key : MediumCall → String
  | read _ key _ | write _ key _ | delete _ key | holds _ key => key

/-- What a call leaves under a space and a key: a value, no value, or what was there before. -/
def leaves (c : MediumCall) (space key : String) : Option (Option (List UInt8)) :=
  if space = c.space ∧ key = c.key then
    match c with
    | write _ _ bytes => some (some bytes)
    | delete _ _ => some none
    | _ => none
  else none

section leaves

variable {space key space' key' : String} {old : Option (List UInt8)}

@[simp] theorem getD_leaves_write {bytes : List UInt8} :
    ((write space' key' bytes).leaves space key).getD old =
      if space = space' ∧ key = key' then some bytes else old := by
  show (if space = space' ∧ key = key' then some (some bytes) else none).getD old = _
  split <;> rfl

@[simp] theorem getD_leaves_delete :
    ((delete space' key').leaves space key).getD old =
      if space = space' ∧ key = key' then none else old := by
  show (if space = space' ∧ key = key' then some none else none).getD old = _
  split <;> rfl

@[simp] theorem leaves_read {capacity : Nat} :
    (read space' key' capacity).leaves space key = none :=
  ite_self none

@[simp] theorem leaves_holds : (holds space' key').leaves space key = none :=
  ite_self none

end leaves

/-- The answer to a call if there is this value under its space and its key. -/
def expected (value : Option (List UInt8)) : MediumCall → MediumAnswer
  | read _ _ capacity => .found (Storage.copy value capacity)
  | write _ _ _ => .done (.ok ())
  | delete _ _ => .done (.ok ())
  | holds _ _ => .whether value.isSome

end MediumCall

/-- The value under a space and a key after calls to a medium that was empty: the one that was
written there last, unless it has been deleted since. -/
def held (calls : List MediumCall) (space key : String) : Option (List UInt8) :=
  (calls.filterMap fun c => c.leaves space key).getLast?.join

theorem held_concat (calls : List MediumCall) (c : MediumCall) (space key : String) :
    held (calls ++ [c]) space key = (c.leaves space key).getD (held calls space key) := by
  rw [held, held, List.filterMap_append]
  cases hleft : c.leaves space key with
  | none => simp [hleft]
  | some value => simp [hleft]

namespace Storage

variable {τ : Type} [Storage τ]

/-- The answer of a medium to a call. -/
def answer (m : τ) : MediumCall → MediumAnswer
  | .read space key capacity => .found (Storage.read m space key capacity).1
  | .write space key bytes => .done (Storage.write m space key bytes).answer
  | .delete space key => .done (Storage.delete m space key).answer
  | .holds space key => .whether (Storage.holds m space key)

/-- The medium after a call. -/
def next (m : τ) : MediumCall → τ
  | .write space key bytes => (Storage.write m space key bytes).state
  | .delete space key => (Storage.delete m space key).state
  | _ => m

/-- The medium after calls. -/
def after (m : τ) (calls : List MediumCall) : τ :=
  calls.foldl next m

theorem after_concat (m : τ) (calls : List MediumCall) (c : MediumCall) :
    after m (calls ++ [c]) = next (after m calls) c :=
  List.foldl_append

/-- As far as these names are concerned, a medium that is good holds values by space and key, and
answers every call by the value under its names. -/
structure Tells (Used : String → String → Prop) (Good : τ → Prop)
    (value : τ → String → String → Option (List UInt8)) : Prop where
  answer : ∀ {m : τ} {c : MediumCall}, Good m → Used c.space c.key →
    Storage.answer m c = c.expected (value m c.space c.key)
  good : ∀ {m : τ} {c : MediumCall}, Good m → Used c.space c.key → Good (next m c)
  value : ∀ {m : τ} {c : MediumCall}, Good m → Used c.space c.key →
    ∀ {space key : String}, Used space key →
      value (next m c) space key = (c.leaves space key).getD (value m space key)

namespace Tells

variable {Used : String → String → Prop} {Good : τ → Prop}
  {value : τ → String → String → Option (List UInt8)} {m : τ}

/-- **What a medium holds after any calls** is what they have left. -/
theorem value_after (h : Tells Used Good value) (hgood : Good m)
    (hempty : ∀ space key, Used space key → value m space key = none)
    {calls : List MediumCall} (hused : ∀ c ∈ calls, Used c.space c.key) :
    Good (after m calls) ∧
      ∀ space key, Used space key → value (after m calls) space key = held calls space key := by
  induction calls using List.reverseRecOn with
  | nil => exact ⟨hgood, hempty⟩
  | append_singleton front c ih =>
    obtain ⟨hgood', hvalue⟩ := ih fun d hd => hused d (List.mem_append_left _ hd)
    have hc := hused c (List.mem_append_right _ List.mem_cons_self)
    rw [after_concat]
    refine ⟨h.good hgood' hc, fun space key hpair => ?_⟩
    rw [h.value hgood' hc hpair, held_concat, hvalue space key hpair]

/-- **What a medium answers after any calls** is what a map from pairs answers. -/
theorem answer_after (h : Tells Used Good value) (hgood : Good m)
    (hempty : ∀ space key, Used space key → value m space key = none)
    {front : List MediumCall} {c : MediumCall} (hused : ∀ d ∈ c :: front, Used d.space d.key) :
    Storage.answer (after m front) c = c.expected (held front c.space c.key) := by
  obtain ⟨hc, hfront⟩ := List.forall_mem_cons.mp hused
  obtain ⟨hgood', hvalue⟩ := h.value_after hgood hempty hfront
  rw [h.answer hgood' hc, hvalue _ _ hc]

end Tells

end Storage

/-! ## Texts for pairs -/

namespace Flash

/-- The second space goes on where the first ends, through a separator that is in the first key; or
it ends with half a separator, with which the first key begins. -/
def Overlap (space key space' key' : String) : Prop :=
  (∃ middle, space' = space ++ "::" ++ middle ∧ key = middle ++ "::" ++ key') ∨
    space' = space ++ ":" ∧ key = ":" ++ key'

theorem entryName_eq_of_overlap {space key space' key' : String}
    (h : Overlap space key space' key') : entryName space key = entryName space' key' := by
  rcases h with ⟨middle, rfl, rfl⟩ | ⟨rfl, rfl⟩
  · simp only [entryName, String.append_assoc]
  · exact String.toList_inj.mp (by simp [entryName])

/-- What two texts made of lists have in common: the first parts are equal, or one goes on beyond
the other. -/
theorem overlap_of_toList {space key space' key' : String} {rest : List Char}
    (hspace : space'.toList = space.toList ++ rest)
    (hkey : ':' :: ':' :: key.toList = rest ++ ':' :: ':' :: key'.toList) :
    (space = space' ∧ key = key') ∨ Overlap space key space' key' := by
  match rest, hspace, hkey with
  | [], hspace, hkey =>
    rw [List.append_nil] at hspace
    exact .inl ⟨String.toList_inj.mp hspace.symm, String.toList_inj.mp (by simpa using hkey)⟩
  | [x], hspace, hkey =>
    simp only [List.singleton_append, List.cons.injEq] at hkey
    obtain ⟨rfl, -, hkey⟩ := hkey
    refine .inr (.inr ⟨String.toList_inj.mp ?_, String.toList_inj.mp ?_⟩)
    · simp [hspace]
    · simp [hkey]
  | x :: y :: middle, hspace, hkey =>
    simp only [List.cons_append, List.cons.injEq] at hkey
    obtain ⟨rfl, rfl, hkey⟩ := hkey
    refine .inr (.inl ⟨String.ofList middle, String.toList_inj.mp ?_, String.toList_inj.mp ?_⟩)
    · simp [hspace]
    · simp [hkey]

/-- **Which pairs have the same text.**  Two different ones do if the names of one overlap those of
the other. -/
theorem entryName_eq_iff {space key space' key' : String} :
    entryName space key = entryName space' key' ↔
      (space = space' ∧ key = key') ∨ Overlap space key space' key' ∨
        Overlap space' key' space key := by
  refine ⟨fun h => ?_, ?_⟩
  · have hlists : space.toList ++ ':' :: ':' :: key.toList =
        space'.toList ++ ':' :: ':' :: key'.toList := by
      have htoList : ∀ s k, (entryName s k).toList = s.toList ++ ':' :: ':' :: k.toList := by
        intro s k
        rw [entryName, String.toList_append, String.toList_append, List.append_assoc]
        rfl
      rw [← htoList, ← htoList, h]
    rcases List.append_eq_append_iff.mp hlists with ⟨rest, hspace, hkey⟩ | ⟨rest, hspace, hkey⟩
    · rcases overlap_of_toList hspace hkey with heq | hover
      · exact .inl heq
      · exact .inr (.inl hover)
    · rcases overlap_of_toList hspace hkey with ⟨hs, hk⟩ | hover
      · exact .inl ⟨hs.symm, hk.symm⟩
      · exact .inr (.inr hover)
  · rintro (⟨rfl, rfl⟩ | hover | hover)
    · rfl
    · exact entryName_eq_of_overlap hover
    · exact (entryName_eq_of_overlap hover).symm

/-- The names of different pairs do not overlap. -/
def Apart (Used : String → String → Prop) : Prop :=
  ∀ space key space' key', Used space key → Used space' key' → ¬Overlap space key space' key'

/-- **Names that are apart** have texts of their own, so flash is a map from their pairs. -/
theorem tells {Used : String → String → Prop} (hapart : Apart Used) :
    Storage.Tells Used (fun _ : Flash => True) fun m space key =>
      m.table.get? (entryName space key) where
  answer := fun {m c} _ _ => by cases c <;> rfl
  good := fun _ _ => trivial
  value := fun {m c} _ hc space key hpair => by
    have hsame : entryName space key = entryName c.space c.key ↔ space = c.space ∧ key = c.key := by
      rw [entryName_eq_iff]
      exact or_iff_left fun hover =>
        hover.elim (hapart _ _ _ _ hpair hc) (hapart _ _ _ _ hc hpair)
    cases c with
    | write space' key' bytes =>
      show (m.table.put (entryName space' key') bytes).get? (entryName space key) = _
      rw [Table.get?_put, MediumCall.getD_leaves_write]
      exact if_congr hsame rfl rfl
    | delete space' key' =>
      show (m.table.erase (entryName space' key')).get? (entryName space key) = _
      rw [Table.get?_erase, MediumCall.getD_leaves_delete]
      exact if_congr hsame rfl rfl
    | read space' key' capacity =>
      rw [MediumCall.leaves_read]
      rfl
    | holds space' key' =>
      rw [MediumCall.leaves_holds]
      rfl

/-- A space that overlaps another one is another one. -/
theorem Overlap.space_ne {space key space' key' : String} (h : Overlap space key space' key') :
    space ≠ space' := by
  intro heq
  have hlength := congrArg String.length heq
  rcases h with ⟨middle, rfl, -⟩ | ⟨rfl, -⟩
  · simp only [String.length_append] at hlength
    have : "::".length = 2 := rfl
    omega
  · simp only [String.length_append] at hlength
    have : ":".length = 1 := rfl
    omega

/-- **For which names flash is a map from pairs.**  Whatever names are used, flash answers every
call after any others by what was last written under just this space and this key, if and only if
the names of no two pairs overlap. -/
theorem answers_by_pair_iff (Used : String → String → Prop) :
    (∀ (front : List MediumCall) (c : MediumCall), (∀ d ∈ c :: front, Used d.space d.key) →
        Storage.answer (Storage.after Flash.empty front) c =
          c.expected (held front c.space c.key)) ↔
      Apart Used := by
  refine ⟨fun h space key space' key' hused hused' hover => ?_, fun hapart front c hused => ?_⟩
  · -- what is written under the first pair is found under the second
    have hanswer := h [.write space key []] (.holds space' key') (by
      rintro d hd
      rcases List.mem_cons.mp hd with rfl | hd
      · exact hused'
      · rw [List.mem_singleton.mp hd]
        exact hused)
    have hpresent : Storage.holds (Storage.after Flash.empty [.write space key []])
        space' key' = true := by
      show ((Table.empty.put (entryName space key) []).get? (entryName space' key')).isSome = true
      rw [Table.get?_put, if_pos (entryName_eq_of_overlap hover).symm]
      rfl
    have habsent : held [.write space key []] space' key' = none := by
      have hne : ¬(space' = space ∧ key' = key) := fun heq => hover.space_ne heq.1.symm
      simp [held, MediumCall.leaves, MediumCall.space, MediumCall.key, hne]
    rw [Storage.answer, hpresent] at hanswer
    simp only [MediumCall.expected, MediumCall.space, MediumCall.key, habsent] at hanswer
    exact absurd (MediumAnswer.whether.inj hanswer) (by decide)
  · exact (tells hapart).answer_after trivial (fun _ _ _ => rfl) hused

/-- **One space reads what another has written.**  A value is written in the space `a`, and nothing
in the space `a::b`; but it is found there. -/
theorem one_space_reads_another :
    let front := [MediumCall.write "a" "b::c" [1]]
    let c := MediumCall.read "a::b" "c" 16
    held front c.space c.key = none ∧
      c.expected (held front c.space c.key) = .found (.error .notFound) ∧
      Storage.answer (Storage.after Flash.empty front) c = .found (.ok (Block.ofBytes [1])) ∧
      Storage.answer (Storage.after Flash.empty front) c ≠
        c.expected (held front c.space c.key) := by
  intro front c
  have habsent : held front c.space c.key = none := by decide
  have hfound : Storage.answer (Storage.after Flash.empty front) c =
      .found (.ok (Block.ofBytes [1])) := rfl
  refine ⟨habsent, by rw [habsent]; rfl, hfound, ?_⟩
  rw [hfound, habsent]
  exact fun h => by cases h

end Flash

end AquariumControl
