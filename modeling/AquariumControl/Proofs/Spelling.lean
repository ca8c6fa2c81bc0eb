import AquariumControl.Proofs.Saving

/-!
# Every spelling of a record

A record is written in one form and read from more than that: a size may be followed by zeros, seven
bits at a time, and each of the 128 negative bytes stands for "no place".  These are the only
liberties.

* `Wire.Spells` — the bytes from which a number is read.
* `Record.Spelled` — the bytes from which a record is read.  It is all of them
  (`Record.spelled_of_run`), and each of them is read (`Record.Spelled.reads`).
* `Record.Spelled.length_encode_le` — none is shorter than the form that is written.
-/

set_option autoImplicit false

namespace AquariumControl

open Reader Wire

/-! ## Looking into a reader that succeeded -/

theorem Reader.run_bind_eq_ok {α β : Type} {r : Reader α} {next : α → Reader β}
    {bytes rest : List UInt8} {b : β} (h : (r >>= next).run bytes = .ok (b, rest)) :
    ∃ a between, r.run bytes = .ok (a, between) ∧ (next a).run between = .ok (b, rest) := by
  rw [StateT.run_bind] at h
  cases hr : r.run bytes with
  | error e =>
    rw [hr] at h
    cases h
  | ok read =>
    rw [hr] at h
    exact ⟨read.1, read.2, rfl, h⟩

namespace Wire

theorem run_byte_eq_ok {bytes rest : List UInt8} {b : UInt8}
    (h : readByte.run bytes = .ok (b, rest)) : bytes = b :: rest := by
  cases bytes with
  | nil => cases h
  | cons c tail =>
    obtain ⟨rfl, rfl⟩ := Prod.mk.inj (Except.ok.inj h)
    rfl

theorem run_bytes_eq_ok {n : Nat} {bytes rest taken : List UInt8}
    (h : (readBytes n).run bytes = .ok (taken, rest)) :
    bytes = taken ++ rest ∧ taken.length = n := by
  change readBytes n bytes = _ at h
  rw [readBytes] at h
  split at h
  · cases h
  · next hlong =>
    obtain ⟨rfl, rfl⟩ := Prod.mk.inj (Except.ok.inj h)
    exact ⟨(List.take_append_drop n bytes).symm,
      List.length_take_of_le (Nat.le_of_not_lt hlong)⟩

theorem run_slotId_eq_ok {bytes rest : List UInt8} {id : SlotId}
    (h : readSlotId.run bytes = .ok (id, rest)) :
    ∃ b, SlotId.ofByte b = id ∧ bytes = b :: rest := by
  obtain ⟨b, between, hb, hid⟩ := run_bind_eq_ok h
  obtain ⟨rfl, rfl⟩ := Prod.mk.inj (Except.ok.inj hid)
  exact ⟨b, rfl, run_byte_eq_ok hb⟩

/-! ## Sizes -/

/-- The bytes, at most `count` of them, that spell a number seven bits at a time, the lowest bits
first.  The number may end in zeros, and a byte in the last possible place adds at most `last`. -/
inductive Spells (last : Nat) : Nat → Nat → List UInt8 → Prop
  | last {count : Nat} {b : UInt8} (h : b.toNat < 128) (hlast : count = 0 → b.toNat ≤ last) :
      Spells last (count + 1) b.toNat [b]
  | more {count n : Nat} {b : UInt8} {rest : List UInt8} (h : 128 ≤ b.toNat)
      (hrest : Spells last count n rest) :
      Spells last (count + 1) (b.toNat % 128 + 128 * n) (b :: rest)

namespace Spells

variable {last count n : Nat} {bytes : List UInt8}

theorem reads (h : Spells last count n bytes) : (readGroups last count).Reads bytes n := by
  induction h with
  | @last count b hb hlast =>
    refine (reads_byte b).andThen ?_
    rw [if_pos hb, if_neg fun hover => Nat.not_lt_of_le (hlast hover.1) hover.2]
  | @more count n b rest hb hrest ih =>
    refine (reads_byte b).bind ?_
    rw [if_neg (Nat.not_lt_of_le hb)]
    exact ih.andThen rfl

theorem lt_groupLimit (h : Spells last count n bytes) : n < groupLimit 127 bytes.length := by
  induction h with
  | last hb hlast => exact hb
  | @more count n b rest hb hrest ih =>
    -- `groupLimit` asks whether the next byte is the last one
    cases hrest with
    | last hc hlast =>
      simp only [List.length_cons, List.length_nil, groupLimit] at ih ⊢
      omega
    | more hc hrest =>
      simp only [List.length_cons, groupLimit] at ih ⊢
      omega

/-- No spelling is shorter than the one that is written. -/
theorem length_writeGroups_le (h : Spells last count n bytes) (most : Nat) :
    (writeGroups most n).length ≤ bytes.length :=
  Wire.length_writeGroups_le h.lt_groupLimit

end Spells

/-- A number is read from its spellings only. -/
theorem spells_of_run {last : Nat} : ∀ {count n : Nat} {bytes rest : List UInt8},
    (readGroups last count).run bytes = .ok (n, rest) →
      ∃ front, bytes = front ++ rest ∧ Spells last count n front
  | 0, _, _, _, h => nomatch h
  | count + 1, n, bytes, rest, h => by
    obtain ⟨b, between, hb, hn⟩ := run_bind_eq_ok h
    rw [run_byte_eq_ok hb]
    split at hn
    · next hsmall =>
      split at hn
      · cases hn
      · next hfits =>
        obtain ⟨rfl, rfl⟩ := Prod.mk.inj (Except.ok.inj hn)
        refine ⟨[b], rfl, .last hsmall fun hcount => ?_⟩
        exact Nat.le_of_not_lt fun hover => hfits ⟨hcount, hover⟩
    · next hlarge =>
      obtain ⟨high, after, hhigh, hpure⟩ := run_bind_eq_ok hn
      obtain ⟨rfl, rfl⟩ := Prod.mk.inj (Except.ok.inj hpure)
      obtain ⟨front, rfl, hfront⟩ := spells_of_run hhigh
      exact ⟨b :: front, rfl, .more (Nat.le_of_not_lt hlarge) hfront⟩

/-- The spellings of a size. -/
def SpellsSize (n : Nat) (bytes : List UInt8) : Prop :=
  Spells size.last size.bytes n bytes

/-! ## Texts and blocks -/

/-- Bytes that are the UTF-8 form of a text are its own bytes. -/
theorem toUTF8_of_fromUTF8? {bytes : List UInt8} {s : String}
    (h : String.fromUTF8? (ByteArray.mk bytes.toArray) = some s) : s.toUTF8.toList = bytes := by
  rw [String.fromUTF8?] at h
  split at h
  · rw [← Option.some.inj h, toList_eq_data]
    rfl
  · cases h

theorem run_text_eq_ok {bytes rest : List UInt8} {s : String}
    (h : readText.run bytes = .ok (s, rest)) :
    ∃ sizeBytes, SpellsSize s.utf8ByteSize sizeBytes ∧
      bytes = sizeBytes ++ (s.toUTF8.toList ++ rest) := by
  obtain ⟨n, afterSize, hn, htext⟩ := run_bind_eq_ok h
  obtain ⟨taken, afterText, htaken, hs⟩ := run_bind_eq_ok htext
  obtain ⟨sizeBytes, rfl, hspells⟩ := spells_of_run hn
  obtain ⟨rfl, hlength⟩ := run_bytes_eq_ok htaken
  split at hs
  · next s' hutf8 =>
    obtain ⟨rfl, rfl⟩ := Prod.mk.inj (Except.ok.inj hs)
    have hbytes := toUTF8_of_fromUTF8? hutf8
    refine ⟨sizeBytes, ?_, by rw [hbytes]⟩
    rwa [← length_utf8, hbytes, hlength]
  · cases hs

theorem run_block_eq_ok {capacity : Nat} {bytes rest : List UInt8} {b : Bytes capacity}
    (h : (readBlock capacity).run bytes = .ok (b, rest)) :
    ∃ sizeBytes, SpellsSize b.val.length sizeBytes ∧ bytes = sizeBytes ++ (b.val ++ rest) := by
  obtain ⟨n, afterSize, hn, hblock⟩ := run_bind_eq_ok h
  obtain ⟨taken, afterBlock, htaken, hb⟩ := run_bind_eq_ok hblock
  obtain ⟨sizeBytes, rfl, hspells⟩ := spells_of_run hn
  obtain ⟨rfl, hlength⟩ := run_bytes_eq_ok htaken
  split at hb
  · next hle =>
    obtain ⟨rfl, rfl⟩ := Prod.mk.inj (Except.ok.inj hb)
    refine ⟨sizeBytes, ?_, rfl⟩
    have hn : taken.length = n := by omega
    rwa [hn]
  · cases hb

end Wire

/-! ## Records -/

namespace Record

/-- The bytes that spell a record: those that are written, except that an id may be any byte that
stands for it, and a size may be spelled in any way. -/
inductive Spelled (r : Record) : List UInt8 → Prop
  | fields {controller actuator sensor : UInt8} {nameSize payloadSize : List UInt8}
      (hcontroller : SlotId.ofByte controller = r.controller)
      (hactuator : SlotId.ofByte actuator = r.actuator)
      (hsensor : SlotId.ofByte sensor = r.sensor)
      (hname : SpellsSize r.name.text.utf8ByteSize nameSize)
      (hpayload : SpellsSize r.payload.val.length payloadSize) :
      Spelled r (r.kind :: ([controller] ++ [actuator] ++ [sensor] ++
        (nameSize ++ r.name.text.toUTF8.toList) ++ (payloadSize ++ r.payload.val)))

namespace Spelled

variable {r : Record} {bytes : List UInt8}

theorem reads (h : Spelled r bytes) : read.Reads bytes r := by
  obtain ⟨hcontroller, hactuator, hsensor, hname, hpayload⟩ := h
  exact reads_of_fields (hcontroller ▸ reads_slotByte _) (hactuator ▸ reads_slotByte _)
    (hsensor ▸ reads_slotByte _) (reads_text_of_size hname.reads)
    (reads_block_of_size hpayload.reads)

/-- What is written is the shortest spelling. -/
theorem length_encode_le (h : Spelled r bytes) : r.encode.length ≤ bytes.length := by
  obtain ⟨-, -, -, hname, hpayload⟩ := h
  have hnameSize := hname.length_writeGroups_le size.bytes
  have hpayloadSize := hpayload.length_writeGroups_le size.bytes
  simp only [encode, writeSlotId, writeText, writeBlock, Extent.write, List.length_cons,
    List.length_append, List.length_nil]
  omega

end Spelled

theorem run_name_eq_ok {bytes rest : List UInt8} {n : Name}
    (h : readName.run bytes = .ok (n, rest)) :
    ∃ sizeBytes, SpellsSize n.text.utf8ByteSize sizeBytes ∧
      bytes = sizeBytes ++ (n.text.toUTF8.toList ++ rest) := by
  obtain ⟨s, between, hs, hn⟩ := run_bind_eq_ok h
  rw [Name.ofString?] at hn
  by_cases hfits : s.utf8ByteSize ≤ nameCapacity
  · rw [dif_pos hfits] at hn
    obtain ⟨rfl, rfl⟩ := Prod.mk.inj (Except.ok.inj hn)
    exact run_text_eq_ok hs
  · rw [dif_neg hfits] at hn
    cases hn

/-- A record is read from its spellings only. -/
theorem spelled_of_run {r : Record} {bytes rest : List UInt8}
    (h : read.run bytes = .ok (r, rest)) : ∃ front, bytes = front ++ rest ∧ Spelled r front := by
  -- what every field was read from, first through the reader, then as bytes
  obtain ⟨kind, _, hkind, h⟩ := run_bind_eq_ok h
  obtain ⟨controller, _, hcontroller, h⟩ := run_bind_eq_ok h
  obtain ⟨actuator, _, hactuator, h⟩ := run_bind_eq_ok h
  obtain ⟨sensor, _, hsensor, h⟩ := run_bind_eq_ok h
  obtain ⟨name, _, hname, h⟩ := run_bind_eq_ok h
  obtain ⟨payload, _, hpayload, h⟩ := run_bind_eq_ok h
  obtain ⟨rfl, rfl⟩ := Prod.mk.inj (Except.ok.inj h)
  obtain ⟨controllerByte, hcontrollerByte, rfl⟩ := run_slotId_eq_ok hcontroller
  obtain ⟨actuatorByte, hactuatorByte, rfl⟩ := run_slotId_eq_ok hactuator
  obtain ⟨sensorByte, hsensorByte, rfl⟩ := run_slotId_eq_ok hsensor
  obtain ⟨nameSize, hnameSize, rfl⟩ := run_name_eq_ok hname
  obtain ⟨payloadSize, hpayloadSize, rfl⟩ := run_block_eq_ok hpayload
  refine ⟨_, ?_, .fields hcontrollerByte hactuatorByte hsensorByte hnameSize hpayloadSize⟩
  rw [run_byte_eq_ok hkind]
  simp only [List.append_assoc, List.cons_append, List.nil_append]

theorem run_of_decode {r : Record} {bytes : List UInt8} (h : decode bytes = .ok r) :
    ∃ rest, read.run bytes = .ok (r, rest) := by
  rw [decode, Reader.decode] at h
  cases hrun : read.run bytes with
  | error e =>
    rw [hrun] at h
    cases h
  | ok result =>
    rw [hrun] at h
    exact ⟨result.2, congrArg Except.ok (Prod.ext (Except.ok.inj h) rfl)⟩

end Record

/-- **Records are read in every spelling and written in the shortest.**  Every record fits into a
buffer of `recordCapacity` bytes and is read from what was written there, whatever follows.  If any
bytes at all are read as the record, then those that were used are a spelling of it, at least as
long as what is written, which is read as the record again; and every spelling is read. -/
theorem records_are_read_in_every_spelling (r : Record) :
    r.write recordCapacity = .ok (Block.ofBytes r.encode) ∧
    r.name.text.utf8ByteSize ≤ nameCapacity ∧ r.payload.val.length ≤ payloadCapacity ∧
    (∀ rest, Record.decode (r.encode ++ rest) = .ok r) ∧
    (∀ bytes, Record.decode bytes = .ok r → ∃ used, used ≤ bytes.length ∧
      Record.read.decode bytes = .ok (r, used) ∧ r.Spelled (bytes.take used) ∧
      r.encode.length ≤ used ∧ Record.decode r.encode = .ok r) ∧
    ∀ bytes, r.Spelled bytes → ∀ rest,
      Record.read.decode (bytes ++ rest) = .ok (r, bytes.length) := by
  refine ⟨r.write_eq, r.name.size_le, r.payload.property, fun rest => ?_, fun bytes hdecode => ?_,
    fun bytes hspelled rest => hspelled.reads.decode rest⟩
  · rw [Record.decode, r.reads.decode]
    rfl
  · obtain ⟨rest, hrun⟩ := Record.run_of_decode hdecode
    obtain ⟨front, rfl, hspelled⟩ := Record.spelled_of_run hrun
    have hfront : (front ++ rest).take front.length = front := List.take_left
    refine ⟨front.length, ?_, hspelled.reads.decode rest, ?_, hspelled.length_encode_le,
      r.decode_encode⟩
    · rw [List.length_append]
      exact Nat.le_add_right _ _
    · rwa [hfront]

/-- The record of an outlet named "pH" is read from bytes in which two ids are negative bytes that
are never written and both sizes are longer than need be. -/
theorem records_are_read_in_every_spelling_long :
    let r : Record := ⟨0x01, .unassigned, .slot 5, .unassigned, ⟨"pH", by decide⟩,
      ⟨[0x07], by decide⟩⟩
    let long : List UInt8 :=
      [0x01, 0x80, 0x05, 0xfe, 0x82, 0x80, 0x00, 0x70, 0x48, 0x81, 0x00, 0x07]
    r.encode = [0x01, 0xff, 0x05, 0xff, 0x02, 0x70, 0x48, 0x01, 0x07] ∧
      Record.read.decode (long ++ [0x2a]) = .ok (r, 12) ∧
      ∃ used, used ≤ (long ++ [0x2a]).length ∧
        Record.read.decode (long ++ [0x2a]) = .ok (r, used) ∧
        r.Spelled ((long ++ [0x2a]).take used) ∧ r.encode.length ≤ used ∧
        Record.decode r.encode = .ok r := by
  intro r long
  have hutf8 : "pH".toUTF8.toList = [0x70, 0x48] := by
    rw [toList_eq_data]
    rfl
  have hencode : r.encode = [0x01, 0xff, 0x05, 0xff, 0x02, 0x70, 0x48, 0x01, 0x07] := by
    rw [Record.encode, writeText, hutf8]
    rfl
  have hzero : ∀ count, Spells 1 (count + 1) 0 [0x00] :=
    fun _ => .last (b := 0x00) (by decide) fun _ => by decide
  have hname : SpellsSize 2 [0x82, 0x80, 0x00] :=
    .more (b := 0x82) (by decide) (.more (b := 0x80) (by decide) (hzero _))
  have hpayload : SpellsSize 1 [0x81, 0x00] := .more (b := 0x81) (by decide) (hzero _)
  have hspelled : r.Spelled (r.kind :: ([0x80] ++ [0x05] ++ [0xfe] ++
      ([0x82, 0x80, 0x00] ++ r.name.text.toUTF8.toList) ++ ([0x81, 0x00] ++ r.payload.val))) :=
    .fields rfl rfl rfl hname hpayload
  rw [hutf8] at hspelled
  obtain ⟨-, -, -, -, hread, hspellings⟩ := records_are_read_in_every_spelling r
  have hlong : Record.read.decode (long ++ [0x2a]) = .ok (r, 12) := hspellings long hspelled _
  have hdecode : Record.decode (long ++ [0x2a]) = .ok r := by
    rw [Record.decode, hlong]
    rfl
  exact ⟨hencode, hlong, hread _ hdecode⟩

end AquariumControl
