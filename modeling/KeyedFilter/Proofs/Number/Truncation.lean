import Mathlib.Algebra.Order.Floor.Semifield
import Mathlib.Data.Rat.Floor
import Mathlib.Order.Compare
import Mathlib.Tactic.Linarith
import KeyedFilter.Proofs.Number.ExactValue

/-!
# The whole part of a double

A double is compared with a whole number by its whole part: the fraction is cut off within the
word, what is left is read as a signed 128-bit word, and where that agrees with the number the
double is compared with what is left of it. Cutting off is exact, and a 128-bit word has room for
every 64-bit one and for a whole number beyond them on each side.

* `Binary64.value_truncate`: cutting off the fraction leaves the whole part.
* `Binary64.compare_toInt128`: the ends of the 128-bit words stand for all that lies beyond.
-/

namespace KeyedFilter.Binary64

/-! ### The whole part as a number -/

theorem absValue_of_exponent_nonneg {x : Binary64} (h : 0 ≤ x.exponent) :
    x.absValue = (x.significand * 2 ^ x.exponent.toNat : ℕ) := by
  rw [absValue]
  conv_lhs => rw [← Int.toNat_of_nonneg h]
  push_cast
  rfl

theorem absValue_of_exponent_neg {x : Binary64} (h : x.exponent < 0) :
    x.absValue = x.significand / (2 ^ (-x.exponent).toNat : ℕ) := by
  rw [absValue, div_eq_mul_inv]
  have hexponent : x.exponent = -((-x.exponent).toNat : ℤ) := by omega
  conv_lhs => rw [hexponent, zpow_neg, zpow_natCast]
  push_cast
  rfl

/-- The whole part is what rounding down leaves of the absolute value. -/
theorem wholeMagnitude_eq_floor (x : Binary64) : x.wholeMagnitude = ⌊x.absValue⌋₊ := by
  rw [wholeMagnitude]
  split_ifs with h
  · rw [absValue_of_exponent_nonneg h, Nat.floor_natCast, powerOfTwo_eq]
  · rw [absValue_of_exponent_neg (by omega), Nat.floor_div_eq_div, powerOfTwo_eq]

theorem wholeMagnitude_le (x : Binary64) : (x.wholeMagnitude : ℚ) ≤ x.absValue := by
  rw [wholeMagnitude_eq_floor]
  exact Nat.floor_le x.absValue_nonneg

theorem absValue_lt (x : Binary64) : x.absValue < x.wholeMagnitude + 1 := by
  rw [wholeMagnitude_eq_floor]
  exact Nat.lt_floor_add_one _

/-- Rounding toward zero stays within 1 of the value, whatever the sign. -/
theorem value_near_whole (x : Binary64) :
    (x.whole : ℚ) - 1 < x.value ∧ x.value < x.whole + 1 := by
  have hlow := x.wholeMagnitude_le
  have hhigh := x.absValue_lt
  unfold whole value
  split_ifs <;> push_cast <;> constructor <;> linarith

/-! ### Words from their parts -/

theorem magnitude_lt (x : Binary64) : x.magnitude < 2 ^ 63 :=
  Nat.mod_lt _ (by decide)

theorem significand_lt (x : Binary64) : x.significand < 2 ^ 53 := by
  have := x.fractionField_lt
  unfold significand
  rw [powerOfTwo_eq]
  split_ifs <;> omega

variable {sign : Bool} {m : ℕ}

theorem toNat_bits_ofSign (h : m < 2 ^ 63) :
    (ofSign sign m).bits.toNat = (if sign then 2 ^ 63 else 0) + m := by
  unfold ofSign
  rw [UInt64.toNat_ofNat', powerOfTwo_eq]
  split_ifs <;> omega

@[simp] theorem magnitude_ofSign (h : m < 2 ^ 63) : (ofSign sign m).magnitude = m := by
  rw [magnitude, toNat_bits_ofSign h, powerOfTwo_eq]
  split_ifs <;> omega

@[simp] theorem negative_ofSign (h : m < 2 ^ 63) : (ofSign sign m).negative = sign := by
  rw [negative, toNat_bits_ofSign h, powerOfTwo_eq]
  cases sign
  · simpa using h
  · simp

/-! ### Cutting off the fraction -/

theorem negative_truncate (x : Binary64) : x.truncate.negative = x.negative := by
  have := x.magnitude_lt
  unfold truncate
  split_ifs
  · rfl
  · exact negative_ofSign (by decide)
  · exact negative_ofSign (by omega)

theorem magnitude_truncate_le (x : Binary64) : x.truncate.magnitude ≤ x.magnitude := by
  have := x.magnitude_lt
  unfold truncate
  split_ifs
  · exact le_rfl
  · rw [magnitude_ofSign (by decide)]
    exact Nat.zero_le _
  · rw [magnitude_ofSign (by omega)]
    exact Nat.sub_le _ _

theorem isNaN_truncate {x : Binary64} (h : x.isNaN = false) : x.truncate.isNaN = false := by
  have := x.magnitude_truncate_le
  simp only [isNaN, decide_eq_false_iff_not] at h ⊢
  omega

/-- Clearing some of the fraction bits of a normal double leaves the exponent as it is and rounds the
significand down. -/
theorem significand_clear {x y : Binary64} {k : ℕ} (hk : k ≤ 52) (hnormal : x.exponentField ≠ 0)
    (h : y.magnitude = x.magnitude - x.magnitude % 2 ^ k) :
    y.exponentField = x.exponentField ∧ y.significand = x.significand / 2 ^ k * 2 ^ k := by
  obtain ⟨c, hc⟩ : 2 ^ k ∣ 2 ^ 52 := Nat.pow_dvd_pow 2 hk
  have hmod : x.magnitude % 2 ^ k = x.fractionField % 2 ^ k := by
    rw [magnitude_eq, hc, Nat.mul_assoc, Nat.mul_add_mod]
  have hmod' : x.significand % 2 ^ k = x.fractionField % 2 ^ k := by
    rw [significand, if_neg hnormal, powerOfTwo_eq, hc, Nat.mul_add_mod]
  rw [Nat.div_mul_self_eq_mod_sub_self, hmod']
  rw [hmod, x.magnitude_eq] at h
  have hlt := x.fractionField_lt
  have hle : x.fractionField % 2 ^ k ≤ x.fractionField := Nat.mod_le _ _
  generalize x.fractionField % 2 ^ k = cleared at h hle ⊢
  have hexponent : y.exponentField = x.exponentField := by
    rw [exponentField, powerOfTwo_eq]
    omega
  have hfraction : y.fractionField = x.fractionField - cleared := by
    rw [fractionField, powerOfTwo_eq]
    omega
  refine ⟨hexponent, ?_⟩
  simp only [significand, hexponent, if_neg hnormal, hfraction, powerOfTwo_eq]
  omega

/-- What is left of the absolute value is its whole part. -/
theorem absValue_truncate (x : Binary64) : x.truncate.absValue = x.wholeMagnitude := by
  have hmagnitude := x.magnitude_lt
  unfold truncate wholeMagnitude
  split_ifs with hwhole hsmall
  · rw [absValue_of_exponent_nonneg hwhole, powerOfTwo_eq]
  · -- even the leading one stands behind the point
    have hzero : x.significand / powerOfTwo (-x.exponent).toNat = 0 := by
      apply Nat.div_eq_of_lt
      rw [powerOfTwo_eq]
      exact x.significand_lt.trans_le (Nat.pow_le_pow_right (by decide) (by omega))
    rw [hzero, absValue, significand, exponentField, fractionField, magnitude_ofSign (by decide)]
    simp
  · set y := ofSign x.negative (x.magnitude - x.magnitude % powerOfTwo (-x.exponent).toNat)
    have hnormal : x.exponentField ≠ 0 := by
      unfold exponent at hsmall
      omega
    have hy : y.magnitude = x.magnitude - x.magnitude % 2 ^ (-x.exponent).toNat :=
      magnitude_ofSign (by omega)
    obtain ⟨hexponent, hsignificand⟩ := significand_clear (by omega) hnormal hy
    have hexponent' : y.exponent = x.exponent := by rw [exponent, exponent, hexponent]
    rw [absValue_of_exponent_neg (by omega), hexponent', hsignificand, powerOfTwo_eq]
    push_cast
    exact mul_div_cancel_right₀ _ (by positivity)

/-- **Cutting off the fraction leaves the whole part.** -/
theorem value_truncate (x : Binary64) : x.truncate.value = x.whole := by
  rw [value, negative_truncate, absValue_truncate, whole]
  split_ifs <;> push_cast <;> rfl

theorem whole_truncate (x : Binary64) : x.truncate.whole = x.whole := by
  rw [whole, negative_truncate, wholeMagnitude_eq_floor, absValue_truncate, Nat.floor_natCast, whole]

/-! ### Comparison with a whole number -/

/-- A whole number that a signed 128-bit word holds and that is not the first or the last of them. -/
def InsideInt128 (n : ℤ) : Prop := -2 ^ 127 < n ∧ n < 2 ^ 127 - 1

/-- The ends of the range take the place of what lies beyond, so they must not be in use. -/
theorem compare_toInt128 {n : ℤ} (hn : InsideInt128 n) {x : Binary64} (h : x.isNaN = false) :
    compare n x.toInt128 = compare n x.whole := by
  obtain ⟨hlow, hhigh⟩ := hn
  have hclamp : x.toInt128 = max (-2 ^ 127) (min x.whole (2 ^ 127 - 1)) := by
    rw [toInt128, h, powerOfTwo_eq]
    rfl
  rw [hclamp]
  rcases lt_trichotomy n x.whole with hw | hw | hw
  · rw [compare_lt_iff_lt.2 hw, compare_lt_iff_lt]
    omega
  · rw [compare_eq_iff_eq.2 hw, compare_eq_iff_eq]
    omega
  · rw [compare_gt_iff_gt.2 hw, compare_gt_iff_gt]
    omega

end KeyedFilter.Binary64
