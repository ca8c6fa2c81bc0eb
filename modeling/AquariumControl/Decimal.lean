import AquariumControl.Binary

/-!
# Decimal text of binary values

Two ways to write a floating-point value, both by exact arithmetic on natural numbers.

* `fixed` writes a given number of places, the exact value rounded to nearest, a half to the even
  neighbour; it gives the pieces of the text one by one.
* `shortest` finds the fewest digits that still read back as the same value, and among those the
  digits nearest to it; a `Layout` says how such digits are written down.
-/

set_option autoImplicit false

namespace AquariumControl

namespace Decimal

/-- The power of ten that `n` zeros make. -/
def tenTo (n : Nat) : Nat := Nat.pow 10 n

/-- `num / den` rounded to the nearest natural number, a half to the even one. -/
def roundHalfEven (num den : Nat) : Nat :=
  let q := num / den
  let r := num % den
  if 2 * r < den then q else if den < 2 * r then q + 1 else q + q % 2

/-- `n` written with at least `width` digits. -/
def padded (width n : Nat) : String :=
  let digits := toString n
  String.ofList (List.replicate (width - digits.length) '0') ++ digits

/-! ## A fixed number of places -/

/-- The exact value in units of `10 ^ -places`, rounded to a whole number of them. -/
def fixedUnits (places : Nat) (x : Binary.Scaled) : Nat :=
  roundHalfEven ((x.significand <<< x.exponent.toNat) * tenTo places) (1 <<< (-x.exponent).toNat)

/-- A value with `places` decimals in the pieces it is written in: sign, whole part, point and
decimals; `inf` for infinity and `NaN` for what is no number.  The sign is that of the bits, so a
value that rounds to zero may have one. -/
def fixed {f : Format} (places : Nat) (x : Binary f) : List String :=
  if x.isNaN then
    ["NaN"]
  else
    let sign := if x.isNegative then ["-"] else []
    match x.scaled? with
    | none => sign ++ ["inf"]
    | some s =>
      let units := fixedUnits places s
      sign ++ [toString (units / tenTo places), ".", padded places (units % tenTo places)]

/-! ## The fewest digits -/

/-- The number `digits * 10 ^ exponent`. -/
structure Digits where
  digits : Nat
  exponent : Int
deriving DecidableEq

/-- Compares `a * 10 ^ i` with `n * 2 ^ j`. -/
def compareScaled (a : Nat) (i : Int) (n : Nat) (j : Int) : Ordering :=
  compare ((a * tenTo i.toNat) <<< (-j).toNat) ((n <<< j.toNat) * tenTo (-i).toNat)

/-- `d` is one of the numbers that round to `x`.  They lie between the points halfway to the two
neighbours of `x`, which belong to `x` exactly when its significand is even. -/
def readsBack (x : Binary.Scaled) (d : Digits) : Bool :=
  let low := if x.narrowBelow then 4 * x.significand - 1 else 4 * x.significand - 2
  let high := 4 * x.significand + 2
  let closed := x.significand % 2 == 0
  let atLow := compareScaled d.digits d.exponent low (x.exponent - 2)
  let atHigh := compareScaled d.digits d.exponent high (x.exponent - 2)
  (atLow == .gt || (closed && atLow == .eq)) && (atHigh == .lt || (closed && atHigh == .eq))

/-- The number of decimal digits of `n`. -/
def digitCount (n : Nat) : Nat :=
  (Nat.toDigits 10 n).length

/-- The power of ten of the leading digit of a positive value. -/
def leadingExponent (x : Binary.Scaled) : Int :=
  let num := x.significand <<< x.exponent.toNat
  let den := 1 <<< (-x.exponent).toNat
  if den ≤ num then
    (digitCount (num / den) : Int) - 1
  else
    -(digitCount ((den - 1) / num) : Int)

/-- The multiples of `10 ^ e` just below and just above the value, of those that read back as it
the nearer one, the even one if both are equally near. -/
def nearestOnGrid (x : Binary.Scaled) (e : Int) : Option Digits :=
  let num := (x.significand <<< x.exponent.toNat) * tenTo (-e).toNat
  let den := (1 <<< (-x.exponent).toNat) * tenTo e.toNat
  let below := num / den
  let lower : Digits := ⟨below, e⟩
  let upper : Digits := ⟨below + 1, e⟩
  match readsBack x lower, readsBack x upper with
  | true, false => some lower
  | false, true => some upper
  | false, false => none
  | true, true => some ⟨roundHalfEven num den, e⟩

/-- Trailing zeros move into the exponent, at most `limit` of them. -/
def stripZeros : Nat → Digits → Digits
  | 0, d => d
  | limit + 1, d =>
    if d.digits % 10 = 0 then stripZeros limit ⟨d.digits / 10, d.exponent + 1⟩ else d

/-- The fewest digits that read back as a positive value.  Seventeen are always enough for the
formats in use; should they not be, the exact value is written. -/
def shortest (x : Binary.Scaled) : Digits :=
  let lead := leadingExponent x
  let found := (List.range 17).findSome? fun (n : Nat) => nearestOnGrid x (lead - n)
  stripZeros 20 (found.getD
    ⟨(x.significand <<< x.exponent.toNat) * tenTo (-x.exponent).toNat / (1 <<< (-x.exponent).toNat),
      min x.exponent 0⟩)

/-! ## Writing digits down -/

/-- How digits are laid out: leading exponents from `plainFrom` to `plainTo` without a power of
ten, all others with one; `notFinite` stands for infinities and what is no number. -/
structure Layout where
  plainFrom : Int
  plainTo : Int
  notFinite : String

def zeros (n : Nat) : String :=
  String.ofList (List.replicate n '0')

/-- Digits with a decimal point, at least one digit on each side of it. -/
def plain (digits : String) (lead : Int) : String :=
  if lead < 0 then
    "0." ++ zeros (-lead - 1).toNat ++ digits
  else
    let whole := lead.toNat + 1
    let chars := digits.toList
    if chars.length ≤ whole then
      digits ++ zeros (whole - chars.length) ++ ".0"
    else
      String.ofList (chars.take whole) ++ "." ++ String.ofList (chars.drop whole)

/-- One digit before the point, the rest after it, and the signed power of ten. -/
def scientific (digits : String) (lead : Int) : String :=
  let mantissa := match digits.toList with
    | [] => ""
    | [d] => String.ofList [d]
    | d :: rest => String.ofList [d] ++ "." ++ String.ofList rest
  mantissa ++ "e" ++ (if lead < 0 then "-" else "+") ++ toString lead.natAbs

/-- The text of a magnitude. -/
def Layout.writeMagnitude (layout : Layout) (x : Binary.Scaled) : String :=
  if x.significand = 0 then
    "0.0"
  else
    let d := shortest x
    let digits := toString d.digits
    let lead := d.exponent + digits.length - 1
    if layout.plainFrom ≤ lead ∧ lead ≤ layout.plainTo then
      plain digits lead
    else
      scientific digits lead

/-- The text of a value. -/
def Layout.write {f : Format} (layout : Layout) (x : Binary f) : String :=
  match x.scaled? with
  | none => layout.notFinite
  | some s => (if x.isNegative then "-" else "") ++ layout.writeMagnitude s

end Decimal

end AquariumControl
