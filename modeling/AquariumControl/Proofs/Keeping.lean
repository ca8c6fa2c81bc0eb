import AquariumControl.Proofs.Saving
import AquariumControl.Storage.Faulty

/-!
# Media that keep what they are given

A medium may refuse an operation, but then nothing has changed; one that it accepts replaces or
forgets the value of one key.  `Storage.Lawful` are these laws, with the values that a medium holds
as a function of its state; `Storage.Keeps` hides that function and says what is held now.

Memory and flash are such media, and they still are where operations fail on demand.  What a store
on such a medium does to the values is `ConfigStore.Keeps.save` and `forget`.
-/

set_option autoImplicit false

namespace AquariumControl

/-- The values under the keys of a space. -/
abbrev Storage.Contents := String → Option (List UInt8)

namespace Storage.Contents

/-- With the value of one key replaced, or forgotten. -/
def set (contents : Contents) (key : String) (value : Option (List UInt8)) : Contents :=
  fun key' => if key' = key then value else contents key'

/-- After an operation on one key: with the new value, unless the operation was refused. -/
def answered (contents : Contents) (key : String) (value : Option (List UInt8)) :
    Except StorageError Unit → Contents
  | .ok () => contents.set key value
  | .error _ => contents

@[simp] theorem set_self (contents : Contents) (key : String) (value : Option (List UInt8)) :
    contents.set key value key = value :=
  if_pos rfl

theorem set_of_ne {key key' : String} (h : key' ≠ key) (contents : Contents)
    (value : Option (List UInt8)) : contents.set key value key' = contents key' :=
  if_neg h

@[simp] theorem set_same (contents : Contents) (key : String) :
    contents.set key (contents key) = contents := by
  funext key'
  by_cases h : key' = key
  · rw [h, set_self]
  · rw [set_of_ne h]

end Storage.Contents

namespace Storage

variable {τ : Type} [Storage τ]

/-- As long as it is good, a medium holds the value that was last accepted for every key of a space,
and what it refuses changes nothing. -/
structure Lawful (space : String) (Good : τ → Prop) (held : τ → Contents) : Prop where
  read : ∀ {m : τ}, Good m → ∀ key capacity,
    (Storage.read m space key capacity).1 = copy (held m key) capacity
  write : ∀ {m : τ}, Good m → ∀ key bytes, Good (Storage.write m space key bytes).state ∧
    held (Storage.write m space key bytes).state =
      (held m).answered key (some bytes) (Storage.write m space key bytes).answer
  delete : ∀ {m : τ}, Good m → ∀ key, Good (Storage.delete m space key).state ∧
    held (Storage.delete m space key).state =
      (held m).answered key none (Storage.delete m space key).answer

/-- From now on the medium keeps what it is given, and this is what it holds. -/
def Keeps (m : τ) (space : String) (contents : Contents) : Prop :=
  ∃ (Good : τ → Prop) (held : τ → Contents), Lawful space Good held ∧ Good m ∧ held m = contents

section Keeps

variable {m : τ} {space : String} {contents : Contents}

theorem Keeps.read (h : Keeps m space contents) (key : String) (capacity : Nat) :
    (Storage.read m space key capacity).1 = copy (contents key) capacity := by
  obtain ⟨Good, held, hlawful, hgood, rfl⟩ := h
  exact hlawful.read hgood key capacity

theorem Keeps.write (h : Keeps m space contents) (key : String) (bytes : List UInt8) :
    Keeps (Storage.write m space key bytes).state space
      (contents.answered key (some bytes) (Storage.write m space key bytes).answer) := by
  obtain ⟨Good, held, hlawful, hgood, rfl⟩ := h
  exact ⟨Good, held, hlawful, hlawful.write hgood key bytes⟩

theorem Keeps.delete (h : Keeps m space contents) (key : String) :
    Keeps (Storage.delete m space key).state space
      (contents.answered key none (Storage.delete m space key).answer) := by
  obtain ⟨Good, held, hlawful, hgood, rfl⟩ := h
  exact ⟨Good, held, hlawful, hlawful.delete hgood key⟩

end Keeps

end Storage

/-! ## Which media do -/

theorem Memory.lawful (space : String) :
    Storage.Lawful space (fun _ : Memory => True) fun m key => m.table.get? (space, key) where
  read := fun _ _ _ => rfl
  write := fun {m} _ key bytes => by
    refine ⟨trivial, funext fun key' => ?_⟩
    show (m.table.put (space, key) bytes).get? (space, key') =
      if key' = key then some bytes else m.table.get? (space, key')
    simp only [Table.get?_put, Prod.mk.injEq, true_and]
  delete := fun {m} _ key => by
    refine ⟨trivial, funext fun key' => ?_⟩
    show (m.table.erase (space, key)).get? (space, key') =
      if key' = key then none else m.table.get? (space, key')
    simp only [Table.get?_erase, Prod.mk.injEq, true_and]

theorem Flash.lawful (space : String) :
    Storage.Lawful space (fun _ : Flash => True) fun m key =>
      m.table.get? (entryName space key) where
  read := fun _ _ _ => rfl
  write := fun {m} _ key bytes => by
    refine ⟨trivial, funext fun key' => ?_⟩
    show (m.table.put (entryName space key) bytes).get? (entryName space key') =
      if key' = key then some bytes else m.table.get? (entryName space key')
    simp only [Table.get?_put, entryName_inj]
  delete := fun {m} _ key => by
    refine ⟨trivial, funext fun key' => ?_⟩
    show (m.table.erase (entryName space key)).get? (entryName space key') =
      if key' = key then none else m.table.get? (entryName space key')
    simp only [Table.get?_erase, entryName_inj]

namespace Faulty

variable {τ : Type} [Storage τ]

/-- A write is refused on the spot or passed on; only the faults of writing change. -/
theorem write_cases (f : Faulty τ) (space key : String) (bytes : List UInt8) :
    (∃ e, Storage.write f space key bytes = ⟨.error e, f, []⟩) ∨
      ∃ left, Storage.write f space key bytes = (Storage.write f.medium space key bytes).lift
        fun medium => ⟨medium, { f.faults with writesLeft := left }⟩ := by
  show (∃ e, f.write space key bytes = _) ∨ ∃ left, f.write space key bytes = _
  rw [write]
  split
  · exact .inr ⟨f.faults.writesLeft, rfl⟩
  · next e _ _ => exact .inl ⟨e, rfl⟩
  · next n _ _ => exact .inr ⟨n, rfl⟩

theorem delete_cases (f : Faulty τ) (space key : String) :
    (∃ e, Storage.delete f space key = ⟨.error e, f, []⟩) ∨
      Storage.delete f space key = (Storage.delete f.medium space key).lift
        fun medium => ⟨medium, f.faults⟩ := by
  show (∃ e, f.delete space key = _) ∨ f.delete space key = _
  rw [delete]
  split
  · next e _ => exact .inl ⟨e, rfl⟩
  · exact .inr rfl

/-- Refusing operations on demand breaks no law, as long as reading is left alone. -/
theorem lawful {space : String} {Good : τ → Prop} {held : τ → Storage.Contents}
    (h : Storage.Lawful space Good held) :
    Storage.Lawful space
      (fun f : Faulty τ => Good f.medium ∧ f.faults.read = none ∧ f.faults.readClaim = none)
      fun f => held f.medium where
  read := fun {f} hgood key capacity => by
    show (f.read space key capacity).1 = _
    rw [read, hgood.2.1, hgood.2.2]
    exact h.read hgood.1 key capacity
  write := fun {f} hgood key bytes => by
    rcases f.write_cases space key bytes with ⟨e, hrefused⟩ | ⟨left, hpassed⟩
    · rw [hrefused]
      exact ⟨hgood, rfl⟩
    · obtain ⟨hstays, hheld⟩ := h.write hgood.1 key bytes
      rw [hpassed]
      exact ⟨⟨hstays, hgood.2⟩, hheld⟩
  delete := fun {f} hgood key => by
    rcases f.delete_cases space key with ⟨e, hrefused⟩ | hpassed
    · rw [hrefused]
      exact ⟨hgood, rfl⟩
    · obtain ⟨hstays, hheld⟩ := h.delete hgood.1 key
      rw [hpassed]
      exact ⟨⟨hstays, hgood.2⟩, hheld⟩

end Faulty

/-! ## A store on such a medium -/

namespace ConfigStore

variable {τ : Type} [Storage τ]

/-- The store is on a medium that keeps what it is given. -/
def Keeps (s : ConfigStore τ) (contents : Storage.Contents) : Prop :=
  Storage.Keeps s.storage s.space contents

namespace Keeps

variable {s : ConfigStore τ} {contents : Storage.Contents}

/-- The record under a key is the one in the bytes that are held. -/
theorem readRecord (h : s.Keeps contents) (key : String) :
    (s.readRecord key).1 = recordOf (Storage.copy (contents key) recordCapacity) :=
  congrArg recordOf (Storage.Keeps.read h key recordCapacity)

theorem writeRecord (h : s.Keeps contents) (key : String) (r : Record) :
    (s.writeRecord key r).answer = .ok () ∧
        (s.writeRecord key r).state.Keeps (contents.set key (some r.encode)) ∨
      (∃ e, (s.writeRecord key r).answer = .error (.storage e)) ∧
        (s.writeRecord key r).state.Keeps contents := by
  have hwrite := Storage.Keeps.write h key r.encode
  rw [answer_writeRecord, state_writeRecord]
  cases hanswer : (Storage.write s.storage s.space key r.encode).answer with
  | error e =>
    rw [hanswer] at hwrite
    exact .inr ⟨⟨e, rfl⟩, hwrite⟩
  | ok _ =>
    rw [hanswer] at hwrite
    exact .inl ⟨rfl, hwrite⟩

/-- An object without a record is not stored, and one with a record is stored unless the medium
refuses. -/
theorem save (h : s.Keeps contents) (key : Label) (record : Except CodecError Record) :
    (∃ r, record = .ok r ∧ (s.save key record).answer = .ok () ∧
        (s.save key record).state.Keeps (contents.set key.text (some r.encode))) ∨
      (∃ e, record = .error e ∧ (s.save key record).answer = .error (.codec e) ∧
        (s.save key record).state.Keeps contents) ∨
      ∃ r e, record = .ok r ∧ (s.save key record).answer = .error (.storage e) ∧
        (s.save key record).state.Keeps contents := by
  cases record with
  | error e => exact .inr (.inl ⟨e, rfl, rfl, h⟩)
  | ok r =>
    rcases h.writeRecord key.text r with ⟨hok, hkeeps⟩ | ⟨⟨e, hrefused⟩, hkeeps⟩
    · exact .inl ⟨r, rfl, hok, hkeeps⟩
    · exact .inr (.inr ⟨r, e, rfl, hrefused, hkeeps⟩)

theorem forget (h : s.Keeps contents) (key : Label) :
    (s.forget key).answer = .ok () ∧ (s.forget key).state.Keeps (contents.set key.text none) ∨
      (∃ e, (s.forget key).answer = .error (.storage e)) ∧ (s.forget key).state.Keeps contents := by
  have hdelete := Storage.Keeps.delete h key.text
  cases hanswer : (Storage.delete s.storage s.space key.text).answer with
  | error e =>
    rw [hanswer] at hdelete
    refine .inr ⟨⟨e, ?_⟩, hdelete⟩
    exact congrArg (Except.mapError Fault.storage) hanswer
  | ok _ =>
    rw [hanswer] at hdelete
    exact .inl ⟨congrArg (Except.mapError Fault.storage) hanswer, hdelete⟩

end Keeps

end ConfigStore

end AquariumControl
