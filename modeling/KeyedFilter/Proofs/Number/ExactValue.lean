import Mathlib.Algebra.Order.Field.Power
import Mathlib.Order.WithBot
import Mathlib.Tactic.FieldSimp
import Mathlib.Tactic.NormNum
import Mathlib.Tactic.Positivity
import Mathlib.Tactic.Ring
import KeyedFilter.Number.Basic

/-!
# Exact values of numbers

What a number stands for: a rational number or one of the two infinities. A whole number stands for
itself, and a double for what the interchange format says of its word.

* `Binary64.exactValue?`: the format, in terms of the three fields of a word.
* `Binary64.exactValue?_eq`: the same in terms of the significand and its exponent.
* `Number.exactValue?`: all numbers.
-/

namespace KeyedFilter

theorem powerOfTwo_eq (n : ℕ) : powerOfTwo n = 2 ^ n := rfl

/-- The rational numbers between two infinities. -/
abbrev ExtendedRat := WithBot (WithTop ℚ)

namespace Binary64

/-- What a double stands for. Its word has a sign bit `s`, eleven exponent bits `e` and 52 fraction
bits `f`. With all exponent bits set it is an infinity or, if it has a fraction, a NaN, which stands
for nothing. Without any, there is no one before the fraction. -/
def exactValue? (x : Binary64) : Option ExtendedRat :=
  let s : ℕ := x.bits.toNat / 2 ^ 63
  let e : ℕ := x.bits.toNat / 2 ^ 52 % 2 ^ 11
  let f : ℕ := x.bits.toNat % 2 ^ 52
  if e = 2047 then
    if f = 0 then some (if s = 0 then ⊤ else ⊥) else none
  else if e = 0 then
    some (((-1) ^ s * 2 ^ (-1022 : ℤ) * (f / 2 ^ 52) : ℚ) : WithTop ℚ)
  else
    some (((-1) ^ s * 2 ^ ((e : ℤ) - 1023) * (1 + f / 2 ^ 52) : ℚ) : WithTop ℚ)

/-! ### Finite doubles -/

/-- The absolute value of a finite double. -/
def absValue (x : Binary64) : ℚ := x.significand * 2 ^ x.exponent

/-- The value of a finite double. -/
def value (x : Binary64) : ℚ := if x.negative then -x.absValue else x.absValue

theorem absValue_nonneg (x : Binary64) : 0 ≤ x.absValue := by
  unfold absValue; positivity

/-! ### The fields of a word -/

theorem exponentField_eq (x : Binary64) : x.exponentField = x.bits.toNat / 2 ^ 52 % 2 ^ 11 := by
  unfold exponentField magnitude
  simp only [powerOfTwo_eq]
  omega

theorem fractionField_eq (x : Binary64) : x.fractionField = x.bits.toNat % 2 ^ 52 := by
  unfold fractionField magnitude
  simp only [powerOfTwo_eq]
  omega

theorem negative_eq (x : Binary64) : x.negative = decide (x.bits.toNat / 2 ^ 63 = 1) := by
  have := x.bits.toNat_lt
  unfold negative
  rw [powerOfTwo_eq, decide_eq_decide]
  omega

theorem magnitude_eq (x : Binary64) :
    x.magnitude = 2 ^ 52 * x.exponentField + x.fractionField :=
  (Nat.div_add_mod _ _).symm

theorem fractionField_lt (x : Binary64) : x.fractionField < 2 ^ 52 :=
  Nat.mod_lt _ (by decide)

theorem exponentField_lt (x : Binary64) : x.exponentField < 2 ^ 11 := by
  rw [exponentField_eq]
  exact Nat.mod_lt _ (by decide)

/-- The word of infinity has all exponent bits and nothing else. -/
theorem infinity_eq : binary64.infinity = 2 ^ 52 * 2047 := rfl

theorem isNaN_iff (x : Binary64) : x.isNaN = true ↔ x.exponentField = 2047 ∧ x.fractionField ≠ 0 := by
  have hf := x.fractionField_lt
  have he := x.exponentField_lt
  rw [isNaN, decide_eq_true_iff, infinity_eq, magnitude_eq]
  omega

theorem isInfinite_iff (x : Binary64) :
    x.isInfinite = true ↔ x.exponentField = 2047 ∧ x.fractionField = 0 := by
  have hf := x.fractionField_lt
  have he := x.exponentField_lt
  rw [isInfinite, beq_iff_eq, infinity_eq, magnitude_eq]
  omega

/-- A double counts in units of the last fraction bit, which is `2 ^ -52` of the leading one. -/
theorem absValue_eq (x : Binary64) :
    x.absValue =
      if x.exponentField = 0 then 2 ^ (-1022 : ℤ) * (x.fractionField / 2 ^ 52 : ℚ)
      else 2 ^ ((x.exponentField : ℤ) - 1023) * (1 + x.fractionField / 2 ^ 52 : ℚ) := by
  have hunit : ∀ k : ℤ, (2 : ℚ) ^ (k - 52) = 2 ^ k / 2 ^ 52 := fun k => by
    rw [zpow_sub₀ (by norm_num)]
    norm_num
  unfold absValue significand exponent
  rw [powerOfTwo_eq]
  split_ifs with he
  · rw [show ((max x.exponentField 1 : ℕ) : ℤ) - 1075 = -1022 - 52 by omega, hunit]
    generalize (2 : ℚ) ^ (-1022 : ℤ) = scale
    ring
  · rw [show ((max x.exponentField 1 : ℕ) : ℤ) - 1075 = ((x.exponentField : ℤ) - 1023) - 52 by omega,
      hunit]
    push_cast
    ring

/-- **A double that is neither a NaN nor an infinity stands for its significand, moved by its
exponent.** -/
theorem exactValue?_eq (x : Binary64) :
    x.exactValue? =
      if x.isNaN then none
      else if x.isInfinite then some (if x.negative then (⊥ : ExtendedRat) else ⊤)
      else some ((x.value : WithTop ℚ) : ExtendedRat) := by
  have hword := x.bits.toNat_lt
  have hnegative := x.negative_eq
  unfold exactValue?
  simp only [← exponentField_eq, ← fractionField_eq, isNaN_iff, isInfinite_iff]
  generalize hs : x.bits.toNat / 2 ^ 63 = s at hnegative ⊢
  have hsign : s = 0 ∨ s = 1 := by omega
  by_cases he : x.exponentField = 2047
  · by_cases hf : x.fractionField = 0
    · rcases hsign with rfl | rfl <;> simp [he, hf, hnegative]
    · simp [he, hf]
  · by_cases hzero : x.exponentField = 0 <;> rcases hsign with rfl | rfl <;>
      simp [he, hzero, hnegative, value, absValue_eq]

theorem isNaN_eq_isNone (x : Binary64) : x.isNaN = x.exactValue?.isNone := by
  rw [exactValue?_eq]
  split_ifs with hnan <;> simp_all

end Binary64

namespace Number

/-- What a number stands for; a NaN stands for nothing. -/
def exactValue? : Number → Option ExtendedRat
  | .signed n => some ((n.toInt : ℚ) : WithTop ℚ)
  | .unsigned n => some ((n.toNat : ℚ) : WithTop ℚ)
  | .double x => x.exactValue?

theorem isNaN_eq_isNone (a : Number) : a.isNaN = a.exactValue?.isNone := by
  cases a with
  | signed n => rfl
  | unsigned n => rfl
  | double x => exact x.isNaN_eq_isNone

end Number

end KeyedFilter
