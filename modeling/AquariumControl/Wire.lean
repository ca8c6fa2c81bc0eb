import AquariumControl.Binary
import AquariumControl.Error
import AquariumControl.SlotId

/-!
# Stored form of values

Records are bytes.  A value is written by a function to a list of bytes; it is read back by a
`Reader`, which takes bytes from the front of a list and returns the rest.

* Numbers of fixed size are little-endian; sizes and 16- and 32-bit numbers are written seven
  bits at a time, low bits first, every byte but the last with its high bit set.
* A `Reader` fails in two ways.  `bufferTooSmall` means that the bytes ended too early, so more
  of them could still make a record; `invalid` means that no continuation could.
-/

set_option autoImplicit false

namespace AquariumControl

/-- At most `capacity` bytes. -/
abbrev Bytes (capacity : Nat) := { bytes : List UInt8 // bytes.length ≤ capacity }

/-- Takes a value from the front of a list of bytes. -/
abbrev Reader (α : Type) := StateT (List UInt8) (Except CodecError) α

namespace Wire

/-! ## Single bytes -/

def readByte : Reader UInt8 := fun
  | [] => .error .bufferTooSmall
  | b :: rest => .ok (b, rest)

/-- The next `n` bytes. -/
def readBytes (n : Nat) : Reader (List UInt8) := fun bytes =>
  if bytes.length < n then .error .bufferTooSmall else .ok (bytes.take n, bytes.drop n)

def fail {α : Type} (e : CodecError) : Reader α := fun _ => .error e

def writeBool (b : Bool) : List UInt8 :=
  [if b then 1 else 0]

/-- One byte, which must be 0 or 1. -/
def readBool : Reader Bool := do
  let b ← readByte
  if b = 0 then pure false else if b = 1 then pure true else fail .invalid

def writeSlotId (id : SlotId) : List UInt8 :=
  [id.toByte]

def readSlotId : Reader SlotId := do
  let b ← readByte
  pure (SlotId.ofByte b)

/-! ## Seven bits at a time -/

/-- How far a number may extend: the most bytes, and the most that the last of them may add. -/
structure Extent where
  bytes : Nat
  last : Nat

/-- Sixteen bits. -/
def short : Extent := ⟨3, 3⟩

/-- Thirty-two bits. -/
def word : Extent := ⟨5, 15⟩

/-- Sixty-four bits, used for sizes. -/
def size : Extent := ⟨10, 1⟩

/-- Writes `n` in at most `bytes` bytes, as few as it takes. -/
def writeGroups : Nat → Nat → List UInt8
  | 0, _ => []
  | bytes + 1, n =>
    if n < 128 then
      [UInt8.ofNat n]
    else
      UInt8.ofNat (n % 128 + 128) :: writeGroups bytes (n / 128)

/-- Reads a number of at most `bytes` bytes.  Leading zeros within that limit are accepted. -/
def readGroups (last : Nat) : Nat → Reader Nat
  | 0 => fail .invalid
  | bytes + 1 => do
    let b ← readByte
    if b.toNat < 128 then
      if bytes = 0 ∧ last < b.toNat then fail .invalid else pure b.toNat
    else do
      let high ← readGroups last bytes
      pure (b.toNat % 128 + 128 * high)

def Extent.write (e : Extent) (n : Nat) : List UInt8 :=
  writeGroups e.bytes n

def Extent.read (e : Extent) : Reader Nat :=
  readGroups e.last e.bytes

def writeUInt16 (n : UInt16) : List UInt8 :=
  short.write n.toNat

def readUInt16 : Reader UInt16 := do
  let n ← short.read
  pure (UInt16.ofNat n)

def writeUInt32 (n : UInt32) : List UInt8 :=
  word.write n.toNat

def readUInt32 : Reader UInt32 := do
  let n ← word.read
  pure (UInt32.ofNat n)

/-! ## Floating-point values -/

/-- The lowest `count` bytes of `n`, the lowest first. -/
def littleEndian : Nat → Nat → List UInt8
  | 0, _ => []
  | count + 1, n => UInt8.ofNat (n % 256) :: littleEndian count (n / 256)

/-- The number whose bytes are given lowest first. -/
def ofLittleEndian : List UInt8 → Nat
  | [] => 0
  | b :: rest => b.toNat + 256 * ofLittleEndian rest

/-- All bits of the value, whatever it is. -/
def writeBinary {f : Format} (x : Binary f) : List UInt8 :=
  littleEndian (f.width / 8) x.bits.toNat

def readBinary (f : Format) : Reader (Binary f) := do
  let bytes ← readBytes (f.width / 8)
  pure ⟨BitVec.ofNat _ (ofLittleEndian bytes)⟩

/-! ## Sequences, texts and blocks -/

/-- Exactly `n` values, one after the other. -/
def readVector {α : Type} (r : Reader α) : (n : Nat) → Reader (Vector α n)
  | 0 => pure #v[]
  | n + 1 => do
    let front ← readVector r n
    let last ← r
    pure (front.push last)


/-- The size of a text followed by its UTF-8 form. -/
def writeText (s : String) : List UInt8 :=
  size.write s.utf8ByteSize ++ s.toUTF8.toList

/-- A text, whose bytes must be UTF-8. -/
def readText : Reader String := do
  let n ← size.read
  let bytes ← readBytes n
  match String.fromUTF8? (ByteArray.mk bytes.toArray) with
  | some s => pure s
  | none => fail .invalid

/-- The size of a block followed by its bytes. -/
def writeBlock (bytes : List UInt8) : List UInt8 :=
  size.write bytes.length ++ bytes

/-- A block of at most `capacity` bytes.  A longer one is refused when its first surplus byte
arrives, and not before. -/
def readBlock (capacity : Nat) : Reader (Bytes capacity) := do
  let n ← size.read
  let bytes ← readBytes (min n (capacity + 1))
  if h : bytes.length ≤ capacity then pure ⟨bytes, h⟩ else fail .invalid

end Wire

/-! ## Buffers -/

/-- What a writer made of an empty buffer: the bytes it put at the front, and the length that it
claims to have filled.  An honest writer claims the length of its bytes (`Block.ofBytes`). -/
structure Block where
  written : List UInt8
  claimed : Nat
deriving DecidableEq

namespace Block

def ofBytes (bytes : List UInt8) : Block :=
  ⟨bytes, bytes.length⟩

/-- Nothing at all. -/
def empty : Block :=
  ofBytes []

/-- The claimed part of a zeroed buffer of `capacity` bytes; `none` if the claim exceeds it. -/
def contents? (b : Block) (capacity : Nat) : Option (List UInt8) :=
  if b.claimed ≤ capacity then
    some ((b.written ++ List.replicate capacity 0).take b.claimed)
  else
    none

/-- Writes bytes into a buffer of `capacity` bytes, if it can hold them. -/
def fit (capacity : Nat) (bytes : List UInt8) : Except CodecError Block :=
  if bytes.length ≤ capacity then .ok (ofBytes bytes) else .error .bufferTooSmall

/-- What an honest writer wrote is what it claims. -/
theorem contents?_ofBytes {bytes : List UInt8} {capacity : Nat} (h : bytes.length ≤ capacity) :
    (ofBytes bytes).contents? capacity = some bytes := by
  simp [contents?, ofBytes, h]

end Block

/-- Reads a value from the front of `bytes` and says how many of them it took. -/
def Reader.decode {α : Type} (r : Reader α) (bytes : List UInt8) : Except CodecError (α × Nat) :=
  match r.run bytes with
  | .ok (a, rest) => .ok (a, bytes.length - rest.length)
  | .error e => .error e

end AquariumControl
