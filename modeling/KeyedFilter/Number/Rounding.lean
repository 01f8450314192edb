/-!
# Rounding to a binary format

A non-negative fraction is rounded to the nearest number of a binary interchange format, a tie to
the even significand. The answer is the format's word without the sign bit, so that the words stand
in the order of the numbers. Everything is done in whole numbers.

* `BinaryFormat.nearest`: the word of the number nearest to `num / den`.
* `binary32`, `binary64`: the two formats in use.
-/

namespace KeyedFilter

/-- The shape of a binary interchange format. -/
structure BinaryFormat where
  /-- Bits of the significand that are stored. -/
  fractionWidth : Nat
  /-- The exponent of the smallest positive number, which is `2 ^ leastExponent`. -/
  leastExponent : Int
  /-- The word of infinity. Larger words, still without a sign, are the NaNs. -/
  infinity : Nat
deriving DecidableEq, Repr

/-- Single precision. -/
def binary32 : BinaryFormat := ⟨23, -149, 0x7f800000⟩

/-- Double precision. -/
def binary64 : BinaryFormat := ⟨52, -1074, 0x7ff0000000000000⟩

/-- A power of two. -/
def powerOfTwo (n : Nat) : Nat := Nat.pow 2 n

/-- `num / den` as a whole number, a half going to the even neighbour. -/
def divNearestEven (num den : Nat) : Nat :=
  let quotient := num / den
  let twice := 2 * (num % den)
  if den < twice || (twice == den && quotient % 2 == 1) then quotient + 1 else quotient

/-- Is `num / den` at least `2 ^ e`? -/
def reachesPower (num den : Nat) (e : Int) : Bool :=
  if 0 ≤ e then den * powerOfTwo e.toNat ≤ num else den ≤ num * powerOfTwo (-e).toNat

/-- The exponent of the largest power of two that is at most `num / den`, both being positive. -/
def binaryExponent (num den : Nat) : Int :=
  let guess : Int := (Nat.log2 num : Int) - (Nat.log2 den : Int)
  if reachesPower num den guess then guess else guess - 1

/-- `num / den` in units of `2 ^ e`, rounded to a whole number. -/
def inUnits (num den : Nat) (e : Int) : Nat :=
  if 0 ≤ e then divNearestEven num (den * powerOfTwo e.toNat)
  else divNearestEven (num * powerOfTwo (-e).toNat) den

/-- The word of the number nearest to `num / den`. A significand that rounds up to the next power of
two carries into the exponent by itself, and what is too large is infinite. -/
def BinaryFormat.nearest (format : BinaryFormat) (num den : Nat) : Nat :=
  if num = 0 then 0
  else
    let unit := max (binaryExponent num den - format.fractionWidth) format.leastExponent
    let step := (unit - format.leastExponent).toNat
    min (step * powerOfTwo format.fractionWidth + inUnits num den unit) format.infinity

end KeyedFilter
