import KeyedFilter.Number.Rounding

/-!
# Double-precision numbers

A double is its 64-bit word: a sign bit, eleven exponent bits and 52 fraction bits. It is read as
`± significand * 2 ^ exponent` and never computed with, so that every comparison is exact.

* `Binary64.compare?`: the order of two doubles, none when one is a NaN.
* `Binary64.truncate`, `Binary64.toInt128`: a double without its fraction, and that as a word.
* `Binary64.compareInt?`: the order of a whole number and a double; the whole number is not rounded.
* `Binary64.ofInt`, `Binary64.ofBinary32`: the nearest double.
-/

namespace KeyedFilter

/-- A double, as its word. -/
structure Binary64 where
  bits : UInt64
deriving DecidableEq, Repr

namespace Binary64

/-- The word with this sign and these lower 63 bits. -/
def ofSign (negative : Bool) (magnitude : Nat) : Binary64 :=
  ⟨UInt64.ofNat (if negative then powerOfTwo 63 + magnitude else magnitude)⟩

/-- Is the sign bit set? -/
def negative (x : Binary64) : Bool :=
  powerOfTwo 63 ≤ x.bits.toNat

/-- The word without its sign bit. -/
def magnitude (x : Binary64) : Nat :=
  x.bits.toNat % powerOfTwo 63

/-- Is it not a number? -/
def isNaN (x : Binary64) : Bool :=
  binary64.infinity < x.magnitude

/-- Is it one of the two infinities? -/
def isInfinite (x : Binary64) : Bool :=
  x.magnitude == binary64.infinity

/-- The exponent bits. -/
def exponentField (x : Binary64) : Nat :=
  x.magnitude / powerOfTwo 52

/-- The fraction bits. -/
def fractionField (x : Binary64) : Nat :=
  x.magnitude % powerOfTwo 52

/-- The whole significand: a normal number has a leading one that is not stored. -/
def significand (x : Binary64) : Nat :=
  if x.exponentField = 0 then x.fractionField else powerOfTwo 52 + x.fractionField

/-- The exponent of the significand's last bit. -/
def exponent (x : Binary64) : Int :=
  (max x.exponentField 1 : Nat) - 1075

/-- The whole part of the absolute value of a finite double. -/
def wholeMagnitude (x : Binary64) : Nat :=
  if 0 ≤ x.exponent then x.significand * powerOfTwo x.exponent.toNat
  else x.significand / powerOfTwo (-x.exponent).toNat

/-- The whole part of a finite double, toward zero. -/
def whole (x : Binary64) : Int :=
  if x.negative then -(x.wholeMagnitude : Int) else x.wholeMagnitude

/-- The double without its fraction, toward zero; the sign stays. A double without fraction bits, an
infinity or a NaN among them, is left as it is, and one below 1 has nothing but a fraction. -/
def truncate (x : Binary64) : Binary64 :=
  if 0 ≤ x.exponent then x
  else if x.exponent < -52 then ofSign x.negative 0
  else ofSign x.negative (x.magnitude - x.magnitude % powerOfTwo (-x.exponent).toNat)

/-- The whole part as a signed 128-bit word. What lies beyond such words, the infinities among it,
is the last one on its side, and a NaN is zero. -/
def toInt128 (x : Binary64) : Int :=
  if x.isNaN then 0
  else max (-(powerOfTwo 127 : Int)) (min x.whole ((powerOfTwo 127 : Int) - 1))

/-- The word as a number that grows with the double; both zeros have the key 0. -/
def orderKey (x : Binary64) : Int :=
  if x.negative then -(x.magnitude : Int) else x.magnitude

/-- The order of two doubles, none when one is a NaN. -/
def compare? (x y : Binary64) : Option Ordering :=
  if x.isNaN || y.isNaN then none else some (compare x.orderKey y.orderKey)

/-- The order of a whole number from a 64-bit word and a double. Where the double's whole part agrees
with the number, its fraction decides. -/
def compareInt? (n : Int) (x : Binary64) : Option Ordering :=
  if x.isNaN then none
  else
    match compare n x.truncate.toInt128 with
    | .eq => some ((x.truncate.compare? x).getD .eq)
    | order => some order

/-- Equality of doubles as numbers: a NaN differs from itself and the two zeros are one number. -/
def same (x y : Binary64) : Bool :=
  x.compare? y == some .eq

/-- The quiet NaN. -/
def nan : Binary64 := ⟨0x7ff8000000000000⟩

/-- One of the two infinities. -/
def infinite (negative : Bool) : Binary64 :=
  ofSign negative binary64.infinity

/-- The double nearest to a whole number. -/
def ofInt (n : Int) : Binary64 :=
  ofSign (n < 0) (binary64.nearest n.natAbs 1)

/-- The absolute value of a finite double as a fraction. -/
def fraction (x : Binary64) : Nat × Nat :=
  if 0 ≤ x.exponent then (x.significand * powerOfTwo x.exponent.toNat, 1)
  else (x.significand, powerOfTwo (-x.exponent).toNat)

end Binary64

/-- A single-precision number, as its word. -/
structure Binary32 where
  bits : UInt32
deriving DecidableEq, Repr

/-- The single-precision number nearest to a double. -/
def Binary64.toBinary32 (x : Binary64) : Binary32 :=
  let magnitude :=
    if x.isNaN then 0x7fc00000
    else if x.isInfinite then binary32.infinity
    else binary32.nearest x.fraction.1 x.fraction.2
  ⟨UInt32.ofNat (if x.negative then powerOfTwo 31 + magnitude else magnitude)⟩

namespace Binary32

/-- The word without its sign bit. -/
def magnitude (x : Binary32) : Nat :=
  x.bits.toNat % powerOfTwo 31

/-- The double of the same value. -/
def toBinary64 (x : Binary32) : Binary64 :=
  let negative := decide (powerOfTwo 31 ≤ x.bits.toNat)
  let exponentField := x.magnitude / powerOfTwo 23
  let fractionField := x.magnitude % powerOfTwo 23
  if binary32.infinity < x.magnitude then Binary64.nan
  else if x.magnitude = binary32.infinity then Binary64.infinite negative
  else if exponentField = 0 then
    Binary64.ofSign negative (binary64.nearest fractionField (powerOfTwo 149))
  else
    let scaled := (powerOfTwo 23 + fractionField) * powerOfTwo exponentField
    Binary64.ofSign negative (binary64.nearest scaled (powerOfTwo 150))

end Binary32

end KeyedFilter
