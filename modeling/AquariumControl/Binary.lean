/-!
# Binary floating-point values

Readings, thresholds and duty cycles are held as the bits of an IEEE interchange format, so that
storing a value and loading it again cannot change it, whatever it is: a signed zero, an
infinity, or a NaN with a payload.

* Comparison (`lt`, `le`) goes through `key`, an integer that grows with the value; a NaN
  compares with nothing.
* `scaled?` is the exact value of a finite number, as a natural number times a power of two.
* Sums, products and the like are left to the machine's arithmetic (`Binary64.add`,
  `Binary32.mul`).
-/

set_option autoImplicit false

namespace AquariumControl

/-- The widths of the exponent and fraction fields of an interchange format. -/
structure Format where
  exponentBits : Nat
  fractionBits : Nat

namespace Format

/-- Exponent, fraction and one sign bit. -/
abbrev width (f : Format) : Nat := f.exponentBits + f.fractionBits + 1

/-- The bits of infinity without its sign: the exponent field is all ones. -/
def infinity (f : Format) : Nat := ((1 <<< f.exponentBits) - 1) <<< f.fractionBits

/-- The power of two that the smallest positive value is. -/
def leastExponent (f : Format) : Int :=
  2 - (1 <<< (f.exponentBits - 1) : Nat) - (f.fractionBits : Int)

end Format

/-- A value of a format, as its bits. -/
structure Binary (f : Format) where
  bits : BitVec f.width
deriving DecidableEq

namespace Binary

variable {f : Format}

def isNegative (x : Binary f) : Bool :=
  x.bits.msb

/-- The bits without the sign. -/
def magnitude (x : Binary f) : Nat :=
  x.bits.toNat % (1 <<< (f.exponentBits + f.fractionBits))

def isNaN (x : Binary f) : Bool :=
  decide (f.infinity < x.magnitude)

def isFinite (x : Binary f) : Bool :=
  decide (x.magnitude < f.infinity)

/-- An integer that orders the values: larger for larger numbers, `0` for both zeros. -/
def key (x : Binary f) : Int :=
  if x.isNegative then -(x.magnitude : Int) else x.magnitude

def lt (x y : Binary f) : Bool :=
  !x.isNaN && !y.isNaN && decide (x.key < y.key)

def le (x y : Binary f) : Bool :=
  !x.isNaN && !y.isNaN && decide (x.key ≤ y.key)

/-- Zero without a sign. -/
def zero : Binary f := ⟨0⟩

/-! ## The exact value -/

/-- A finite magnitude `significand * 2 ^ exponent`.  `narrowBelow` says that the next smaller
value of the format is only half as far away as the next larger one. -/
structure Scaled where
  significand : Nat
  exponent : Int
  narrowBelow : Bool
deriving DecidableEq

/-- The magnitude of a finite value; `none` for the infinities and NaNs. -/
def scaled? (x : Binary f) : Option Scaled :=
  if x.isFinite then
    let field := x.magnitude >>> f.fractionBits
    let fraction := x.magnitude % (1 <<< f.fractionBits)
    if field = 0 then
      some ⟨fraction, f.leastExponent, false⟩
    else
      some ⟨(1 <<< f.fractionBits) + fraction, f.leastExponent + (field - 1 : Nat),
        fraction == 0 && 1 < field⟩
  else
    none

/-! ## Laws of comparison -/

theorem not_lt_of_isNaN_left {x : Binary f} (h : x.isNaN = true) (y : Binary f) :
    x.lt y = false := by
  simp [lt, h]

theorem not_lt_of_isNaN_right (x : Binary f) {y : Binary f} (h : y.isNaN = true) :
    x.lt y = false := by
  simp [lt, h]

theorem lt_iff_key {x y : Binary f} (hx : x.isNaN = false) (hy : y.isNaN = false) :
    x.lt y = true ↔ x.key < y.key := by
  simp [lt, hx, hy]

theorem le_iff_key {x y : Binary f} (hx : x.isNaN = false) (hy : y.isNaN = false) :
    x.le y = true ↔ x.key ≤ y.key := by
  simp [le, hx, hy]

theorem not_isNaN_of_le {x y : Binary f} (h : x.le y = true) :
    x.isNaN = false ∧ y.isNaN = false := by
  simp only [le, Bool.and_eq_true, Bool.not_eq_true'] at h
  exact h.1

/-- Between numbers, "not less" is "at least". -/
theorem le_iff_not_lt {x y : Binary f} (hx : x.isNaN = false) (hy : y.isNaN = false) :
    x.le y = true ↔ y.lt x = false := by
  simp only [le, lt, hx, hy, Bool.not_false, Bool.true_and, decide_eq_true_eq,
    decide_eq_false_iff_not, Int.not_lt]

end Binary

/-! ## The two formats in use -/

abbrev Format.single : Format := ⟨8, 23⟩

abbrev Format.double : Format := ⟨11, 52⟩

/-- Readings, thresholds and offsets. -/
abbrev Binary64 := Binary Format.double

/-- Duty cycles. -/
abbrev Binary32 := Binary Format.single

namespace Binary64

def toFloat (x : Binary64) : Float :=
  Float.ofBits (UInt64.ofBitVec x.bits)

def ofFloat (x : Float) : Binary64 :=
  ⟨x.toBits.toBitVec⟩

def one : Binary64 := ⟨0x3FF0000000000000⟩

/-- The machine's sum. -/
def add (x y : Binary64) : Binary64 :=
  ofFloat (x.toFloat + y.toFloat)

/-- The machine's difference. -/
def sub (x y : Binary64) : Binary64 :=
  ofFloat (x.toFloat - y.toFloat)

end Binary64

namespace Binary32

def toFloat (x : Binary32) : Float32 :=
  Float32.ofBits (UInt32.ofBitVec x.bits)

def ofFloat (x : Float32) : Binary32 :=
  ⟨x.toBits.toBitVec⟩

def one : Binary32 := ⟨0x3F800000⟩

/-- The machine's product. -/
def mul (x y : Binary32) : Binary32 :=
  ofFloat (x.toFloat * y.toFloat)

/-- A number of at most 16 bits, which the format holds exactly. -/
def ofUInt16 (n : UInt16) : Binary32 :=
  ofFloat (Float32.ofNat n.toNat)

end Binary32

end AquariumControl
