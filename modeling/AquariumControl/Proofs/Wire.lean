import AquariumControl.Wire

/-!
# Reading back what was written

`Reader.Reads r bytes a` says that `r` takes exactly `bytes` and gives `a`, whatever follows.  It is
stated with the bytes that follow, so that a reader made of others is covered field by field
(`Reads.bind`): the reader of every field meets the bytes of that field first.

Every reader of `Wire` reads what the writer of the same name wrote, and the sizes of what is
written are bounded beside it.
-/

set_option autoImplicit false

namespace AquariumControl

/-- Whatever follows them, the reader takes exactly these bytes and gives this value. -/
def Reader.Reads {α : Type} (r : Reader α) (bytes : List UInt8) (a : α) : Prop :=
  ∀ rest, r.run (bytes ++ rest) = .ok (a, rest)

namespace Reader

variable {α β : Type}

theorem reads_pure (a : α) : Reads (pure a) [] a := fun _ => rfl

/-- One field after the other. -/
theorem Reads.bind {r : Reader α} {bytes : List UInt8} {a : α} (hr : r.Reads bytes a)
    {next : α → Reader β} {bytes' : List UInt8} {b : β} (hnext : (next a).Reads bytes' b) :
    Reads (r >>= next) (bytes ++ bytes') b := by
  intro rest
  rw [StateT.run_bind, List.append_assoc, hr]
  exact hnext rest

/-- The last field. -/
theorem Reads.andThen {r : Reader α} {bytes : List UInt8} {a : α} (hr : r.Reads bytes a)
    {next : α → Reader β} {b : β} (hnext : next a = pure b) : Reads (r >>= next) bytes b := by
  have h := hr.bind (hnext ▸ reads_pure b)
  rwa [List.append_nil] at h

/-- Read from a longer text, a value takes its own bytes. -/
theorem Reads.decode {r : Reader α} {bytes : List UInt8} {a : α} (h : r.Reads bytes a)
    (rest : List UInt8) : r.decode (bytes ++ rest) = .ok (a, bytes.length) := by
  have hlength : (bytes ++ rest).length - rest.length = bytes.length := by
    rw [List.length_append, Nat.add_sub_cancel]
  simp only [Reader.decode, h rest, hlength]

theorem Reads.decode_self {r : Reader α} {bytes : List UInt8} {a : α} (h : r.Reads bytes a) :
    r.decode bytes = .ok (a, bytes.length) := by
  have hdecode := h.decode []
  rwa [List.append_nil] at hdecode

end Reader

namespace Wire

open Reader

/-! ## Single bytes -/

theorem reads_byte (b : UInt8) : readByte.Reads [b] b := fun _ => rfl

theorem reads_bytes (bytes : List UInt8) : (readBytes bytes.length).Reads bytes bytes := by
  intro rest
  have hlong : ¬(bytes ++ rest).length < bytes.length := by simp
  show readBytes bytes.length (bytes ++ rest) = _
  rw [readBytes, if_neg hlong, List.take_left, List.drop_left]

theorem reads_bool (b : Bool) : readBool.Reads (writeBool b) b := by
  intro rest
  cases b <;> rfl

/-- Every byte is read as an id, those that are never written as well. -/
theorem reads_slotByte (b : UInt8) : readSlotId.Reads [b] (SlotId.ofByte b) :=
  (reads_byte b).andThen rfl

theorem reads_slotId (id : SlotId) : readSlotId.Reads (writeSlotId id) id := by
  have h := reads_slotByte id.toByte
  rwa [SlotId.ofByte_toByte] at h

/-! ## Seven bits at a time -/

theorem toNat_ofNat {n : Nat} (h : n < 256) : (UInt8.ofNat n).toNat = n :=
  UInt8.toNat_ofNat_of_lt' h

/-- The first number that `bytes` bytes cannot hold. -/
def groupLimit (last : Nat) : Nat → Nat
  | 0 => 0
  | 1 => last + 1
  | bytes + 2 => 128 * groupLimit last (bytes + 1)

theorem reads_groups {last : Nat} (hlast : last < 128) :
    ∀ {bytes n : Nat}, n < groupLimit last bytes →
      (readGroups last bytes).Reads (writeGroups bytes n) n
  | 0, _, h => absurd h (Nat.not_lt_zero _)
  | 1, n, h => by
    have hn : n < last + 1 := h
    have hsmall : n < 128 := by omega
    rw [writeGroups, if_pos hsmall]
    refine (reads_byte _).andThen ?_
    rw [toNat_ofNat (by omega), if_pos hsmall, if_neg (by omega)]
  | bytes + 2, n, h => by
    by_cases hsmall : n < 128
    · rw [writeGroups, if_pos hsmall]
      refine (reads_byte _).andThen ?_
      rw [toNat_ofNat (by omega), if_pos hsmall, if_neg (by omega)]
    · have hhigh : n / 128 < groupLimit last (bytes + 1) := by
        rw [groupLimit] at h
        omega
      rw [writeGroups, if_neg hsmall]
      refine (reads_byte _).bind ?_
      rw [toNat_ofNat (by omega), if_neg (by omega)]
      refine (reads_groups hlast hhigh).andThen ?_
      have hn : (n % 128 + 128) % 128 + 128 * (n / 128) = n := by omega
      rw [hn]

/-- A number that fits into fewer bytes takes no more of them than that. -/
theorem length_writeGroups_le :
    ∀ {bytes most n : Nat}, n < groupLimit 127 most → (writeGroups bytes n).length ≤ most
  | 0, _, _, _ => Nat.zero_le _
  | _ + 1, 0, _, h => absurd h (Nat.not_lt_zero _)
  | bytes + 1, 1, n, h => by
    have hn : n < 127 + 1 := h
    rw [writeGroups, if_pos (by omega)]
    exact Nat.le_refl 1
  | bytes + 1, most + 2, n, h => by
    have hhigh : n / 128 < groupLimit 127 (most + 1) := by
      rw [groupLimit] at h
      omega
    have ih : (writeGroups bytes (n / 128)).length ≤ most + 1 := length_writeGroups_le hhigh
    rw [writeGroups]
    split
    · simp
    · rw [List.length_cons]
      omega

theorem reads_uint16 (n : UInt16) : readUInt16.Reads (writeUInt16 n) n := by
  have hn : n.toNat < groupLimit 3 3 := n.toNat_lt
  refine (reads_groups (by decide) hn).andThen ?_
  rw [UInt16.ofNat_toNat]

theorem reads_uint32 (n : UInt32) : readUInt32.Reads (writeUInt32 n) n := by
  have hn : n.toNat < groupLimit 15 5 := n.toNat_lt
  refine (reads_groups (by decide) hn).andThen ?_
  rw [UInt32.ofNat_toNat]

theorem length_writeUInt16_le (n : UInt16) : (writeUInt16 n).length ≤ 3 :=
  length_writeGroups_le (Nat.lt_trans n.toNat_lt (by decide))

theorem length_writeWord_le {n : Nat} (h : n < UInt32.size) : (word.write n).length ≤ 5 :=
  length_writeGroups_le (Nat.lt_trans h (by decide))

/-- A size is read back if it is below `2 ^ 64`. -/
theorem reads_size {n : Nat} (hn : n < groupLimit 1 10) : size.read.Reads (size.write n) n :=
  reads_groups (by decide) hn

theorem length_writeSize {n : Nat} (hn : n < 128) : (size.write n).length = 1 := by
  rw [Extent.write, show size.bytes = 9 + 1 from rfl, writeGroups, if_pos hn]
  rfl

/-! ## Floating-point values -/

theorem length_littleEndian : ∀ count n : Nat, (littleEndian count n).length = count
  | 0, _ => rfl
  | count + 1, n => by rw [littleEndian, List.length_cons, length_littleEndian]

/-- Bytes hold a number up to multiples of what they cannot hold. -/
theorem ofLittleEndian_littleEndian :
    ∀ count n : Nat, ofLittleEndian (littleEndian count n) = n % (1 <<< (8 * count))
  | 0, n => by simp [littleEndian, ofLittleEndian, Nat.mod_one]
  | count + 1, n => by
    have ih := ofLittleEndian_littleEndian count (n / 256)
    have hbyte : (UInt8.ofNat (n % 256)).toNat = n % 256 :=
      toNat_ofNat (Nat.mod_lt n (by decide))
    have hshift : 1 <<< (8 * (count + 1)) = 256 * 1 <<< (8 * count) := by
      rw [Nat.mul_succ, Nat.shiftLeft_add, Nat.shiftLeft_eq _ 8, Nat.mul_comm]
    rw [littleEndian, ofLittleEndian, ih, hbyte, hshift, Nat.mod_mul]

theorem reads_binary {f : Format} (hf : 8 * (f.width / 8) = f.width) (x : Binary f) :
    (readBinary f).Reads (writeBinary x) x := by
  have hbytes := reads_bytes (writeBinary x)
  rw [writeBinary, length_littleEndian] at hbytes
  refine hbytes.andThen ?_
  have hbits : BitVec.ofNat f.width (ofLittleEndian (littleEndian (f.width / 8) x.bits.toNat)) =
      x.bits := by
    rw [ofLittleEndian_littleEndian, hf, Nat.shiftLeft_eq, Nat.one_mul,
      Nat.mod_eq_of_lt x.bits.isLt, BitVec.ofNat_toNat, BitVec.setWidth_eq]
  rw [hbits]

theorem length_writeBinary {f : Format} (x : Binary f) : (writeBinary x).length = f.width / 8 :=
  length_littleEndian _ _

/-! ## Sequences, texts and blocks -/

theorem reads_vector {α : Type} {r : Reader α} {write : α → List UInt8}
    (hr : ∀ a, r.Reads (write a) a) :
    ∀ {n : Nat} (v : Vector α n), (readVector r n).Reads (v.toList.flatMap write) v
  | 0, v => by
    have hv : v = #v[] := Vector.eq_empty
    subst hv
    exact reads_pure _
  | n + 1, v => by
    obtain ⟨front, last, rfl⟩ : ∃ front last, v = Vector.push front last :=
      ⟨v.pop, v.back, v.push_pop_back.symm⟩
    have hlist : (front.push last).toList.flatMap write =
        front.toList.flatMap write ++ write last := by
      rw [Vector.toList_push, List.flatMap_append, List.flatMap_singleton]
    rw [hlist]
    exact (reads_vector hr front).bind ((hr last).andThen rfl)

theorem toList_loop_eq (b : ByteArray) (i : Nat) (front : List UInt8) :
    ByteArray.toList.loop b i front = front.reverse ++ b.data.toList.drop i := by
  induction i, front using ByteArray.toList.loop.induct b with
  | case1 i front hi ih =>
    have hlt : i < b.data.toList.length := hi
    rw [ByteArray.toList.loop, if_pos hi, ih, List.reverse_cons, List.append_assoc,
      List.drop_eq_getElem_cons hlt]
    simp [ByteArray.get!, hi]
  | case2 i front hi =>
    have hle : b.data.toList.length ≤ i := Nat.le_of_not_lt hi
    rw [ByteArray.toList.loop, if_neg hi, List.drop_eq_nil_of_le hle, List.append_nil]

theorem toList_eq_data (b : ByteArray) : b.toList = b.data.toList := by
  rw [ByteArray.toList, toList_loop_eq]
  rfl

theorem length_utf8 (s : String) : s.toUTF8.toList.length = s.utf8ByteSize := by
  rw [toList_eq_data]
  rfl

theorem fromUTF8?_toUTF8 (s : String) :
    String.fromUTF8? (ByteArray.mk s.toUTF8.toList.toArray) = some s := by
  have hvalid : (ByteArray.mk s.toUTF8.data).IsValidUTF8 := s.isValidUTF8
  rw [toList_eq_data, Array.toArray_toList, String.fromUTF8?, dif_pos hvalid]
  rfl

/-- A text follows its size, however the size is written. -/
theorem reads_text_of_size {s : String} {sizeBytes : List UInt8}
    (hsize : size.read.Reads sizeBytes s.utf8ByteSize) :
    readText.Reads (sizeBytes ++ s.toUTF8.toList) s := by
  have hbytes := reads_bytes s.toUTF8.toList
  rw [length_utf8] at hbytes
  refine hsize.bind (hbytes.andThen ?_)
  rw [fromUTF8?_toUTF8]

theorem reads_text {s : String} (hs : s.utf8ByteSize < groupLimit 1 10) :
    readText.Reads (writeText s) s :=
  reads_text_of_size (reads_size hs)

/-- A block follows its size, however the size is written. -/
theorem reads_block_of_size {capacity : Nat} {b : Bytes capacity} {sizeBytes : List UInt8}
    (hsize : size.read.Reads sizeBytes b.val.length) :
    (readBlock capacity).Reads (sizeBytes ++ b.val) b := by
  obtain ⟨bytes, hle⟩ := b
  have hmin : min bytes.length (capacity + 1) = bytes.length := by omega
  have hbytes := reads_bytes bytes
  rw [← hmin] at hbytes
  refine hsize.bind (hbytes.andThen ?_)
  rw [dif_pos hle]

theorem reads_block {capacity : Nat} (hcapacity : capacity < groupLimit 1 10)
    (b : Bytes capacity) : (readBlock capacity).Reads (writeBlock b.val) b :=
  reads_block_of_size (reads_size (Nat.lt_of_le_of_lt b.property hcapacity))

end Wire

end AquariumControl
