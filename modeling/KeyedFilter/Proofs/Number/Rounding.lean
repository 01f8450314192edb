import Mathlib.Tactic.SplitIfs
import KeyedFilter.Proofs.Number.Comparison

/-!
# Rounding of whole numbers

A whole number is rounded to a double by its 53 leading bits. The word of the double is the exponent
with these bits behind it, less the first one; when they round up to one bit more, that carries into
the exponent. So rounding keeps the order of whole numbers, and it is known between two of them as
soon as it is known there.

* `nearest_whole`: the word of the double nearest to a whole number.
* `nearest_mono`: the words stand in the order of the whole numbers.
* `Decimal.toBinary64_whole`: decimals without an exponent are rounded in this way, however long.
-/

namespace KeyedFilter

/-! ### To the nearest whole number -/

theorem divNearestEven_mul (k : ℕ) {d : ℕ} (hd : 0 < d) : divNearestEven (k * d) d = k := by
  have hquotient : k * d / d = k := Nat.mul_div_cancel k hd
  have hremainder : k * d % d = 0 := Nat.mul_mod_left k d
  simp [divNearestEven, hquotient, hremainder, hd.ne]

theorem divNearestEven_mono {a b : ℕ} (h : a ≤ b) (d : ℕ) :
    divNearestEven a d ≤ divNearestEven b d := by
  have hquotient : a / d ≤ b / d := Nat.div_le_div_right h
  rcases hquotient.lt_or_eq with hlt | heq
  · simp only [divNearestEven]
    split_ifs <;> omega
  · -- the quotients agree, so the remainders stand in the same order
    have ha := Nat.div_add_mod a d
    have hb := Nat.div_add_mod b d
    have hremainder : a % d ≤ b % d := by rw [heq] at ha; omega
    simp only [divNearestEven, heq, Bool.or_eq_true, Bool.and_eq_true, decide_eq_true_eq,
      beq_iff_eq]
    split_ifs <;> omega

/-! ### To the nearest double -/

theorem log2_mono {m n : ℕ} (h : m ≤ n) : Nat.log2 m ≤ Nat.log2 n := by
  rcases Nat.eq_zero_or_pos m with rfl | hm
  · rw [Nat.log2_zero]
    exact Nat.zero_le _
  · rw [Nat.le_log2 (by omega)]
    exact (Nat.log2_self_le hm.ne').trans h

theorem binaryExponent_whole {n : ℕ} (hn : n ≠ 0) : binaryExponent n 1 = Nat.log2 n := by
  have hguess : (Nat.log2 n : ℤ) - (Nat.log2 1 : ℤ) = Nat.log2 n := by
    rw [show Nat.log2 1 = 0 by decide +kernel]
    omega
  have hreaches : reachesPower n 1 (Nat.log2 n) = true := by
    rw [reachesPower, if_pos (Int.natCast_nonneg _), Int.toNat_natCast, powerOfTwo_eq, one_mul,
      decide_eq_true_iff]
    exact Nat.log2_self_le hn
  rw [binaryExponent, hguess, if_pos hreaches]

/-- The 53 leading bits of a whole number, the last one rounded. -/
def leadingBits (n : ℕ) : ℕ :=
  inUnits n 1 ((Nat.log2 n : ℤ) - 52)

theorem leadingBits_of_le {n : ℕ} (h : 52 ≤ Nat.log2 n) :
    leadingBits n = divNearestEven n (2 ^ (Nat.log2 n - 52)) := by
  rw [leadingBits, inUnits, if_pos (by omega), powerOfTwo_eq, one_mul]
  congr 2
  omega

theorem leadingBits_of_lt {n : ℕ} (h : Nat.log2 n < 52) :
    leadingBits n = n * 2 ^ (52 - Nat.log2 n) := by
  have hscaled := divNearestEven_mul (n * 2 ^ (52 - Nat.log2 n)) Nat.one_pos
  rw [mul_one] at hscaled
  rw [leadingBits, inUnits, if_neg (by omega), powerOfTwo_eq]
  conv_rhs => rw [← hscaled]
  congr 3
  omega

/-- There are 53 of them, unless the last one carries. -/
theorem leadingBits_bounds {n : ℕ} (hn : n ≠ 0) :
    2 ^ 52 ≤ leadingBits n ∧ leadingBits n ≤ 2 ^ 53 := by
  have hlow := Nat.log2_self_le hn
  have hhigh : n < 2 ^ (Nat.log2 n + 1) := Nat.lt_log2_self
  by_cases h : 52 ≤ Nat.log2 n
  · -- the number lies between two powers of two, and those are rounded to themselves
    obtain ⟨e, he⟩ := Nat.exists_eq_add_of_le h
    have hsub : Nat.log2 n - 52 = e := by omega
    have hpos : 0 < 2 ^ e := Nat.two_pow_pos e
    rw [he, Nat.pow_add] at hlow
    rw [he, show 52 + e + 1 = 53 + e by omega, Nat.pow_add] at hhigh
    rw [leadingBits_of_le h, hsub]
    constructor
    · conv_lhs => rw [← divNearestEven_mul (2 ^ 52) hpos]
      exact divNearestEven_mono hlow _
    · conv_rhs => rw [← divNearestEven_mul (2 ^ 53) hpos]
      exact divNearestEven_mono hhigh.le _
  · obtain ⟨e, he⟩ := Nat.exists_eq_add_of_lt (not_le.1 h)
    have hsub : 52 - Nat.log2 n = e + 1 := by omega
    have hpow : 2 ^ Nat.log2 n * 2 ^ (e + 1) = 2 ^ 52 := by
      rw [← Nat.pow_add]
      congr 1
      omega
    rw [leadingBits_of_lt (not_le.1 h), hsub]
    constructor
    · rw [← hpow]
      exact Nat.mul_le_mul_right _ hlow
    · calc n * 2 ^ (e + 1) ≤ 2 ^ (Nat.log2 n + 1) * 2 ^ (e + 1) := Nat.mul_le_mul_right _ hhigh.le
        _ = 2 ^ 52 * 2 := by rw [Nat.pow_succ, Nat.mul_right_comm, hpow]
        _ = 2 ^ 53 := (Nat.pow_succ 2 52).symm

theorem leadingBits_mono {m n : ℕ} (h : m ≤ n) (hlog : Nat.log2 m = Nat.log2 n) :
    leadingBits m ≤ leadingBits n := by
  by_cases hlarge : 52 ≤ Nat.log2 n
  · rw [leadingBits_of_le hlarge, leadingBits_of_le (hlog ▸ hlarge), hlog]
    exact divNearestEven_mono h _
  · rw [leadingBits_of_lt (not_le.1 hlarge), leadingBits_of_lt (hlog ▸ not_le.1 hlarge), hlog]
    exact Nat.mul_le_mul_right _ h

theorem nearest_whole {n : ℕ} (hn : n ≠ 0) : binary64.nearest n 1 =
    min ((Nat.log2 n + 1022) * 2 ^ 52 + leadingBits n) binary64.infinity := by
  have hunit : max ((Nat.log2 n : ℤ) - binary64.fractionWidth) binary64.leastExponent =
      (Nat.log2 n : ℤ) - 52 := by
    simp only [binary64]
    omega
  have hstep : ((Nat.log2 n : ℤ) - 52 - binary64.leastExponent).toNat = Nat.log2 n + 1022 := by
    simp only [binary64]
    omega
  rw [BinaryFormat.nearest, if_neg hn, binaryExponent_whole hn]
  simp only [hunit, hstep]
  rfl

/-- **Rounding keeps the order of whole numbers.** -/
theorem nearest_mono {m n : ℕ} (h : m ≤ n) : binary64.nearest m 1 ≤ binary64.nearest n 1 := by
  rcases Nat.eq_zero_or_pos m with rfl | hm
  · rw [BinaryFormat.nearest, if_pos rfl]
    exact Nat.zero_le _
  · rw [nearest_whole (by omega), nearest_whole (by omega)]
    refine min_le_min_right _ ?_
    rcases (log2_mono h).eq_or_lt with hlog | hlog
    · have := leadingBits_mono h hlog
      omega
    · -- the bits of the smaller number reach at most to the next exponent
      have := (leadingBits_bounds (n := m) (by omega)).2
      have := (leadingBits_bounds (n := n) (by omega)).1
      omega

theorem nearest_le_infinity (n : ℕ) : binary64.nearest n 1 ≤ binary64.infinity := by
  rcases Nat.eq_zero_or_pos n with rfl | hn
  · decide
  · rw [nearest_whole hn.ne']
    exact min_le_right _ _

theorem nearest_eq_infinity {n : ℕ} (h : 1024 ≤ Nat.log2 n) :
    binary64.nearest n 1 = binary64.infinity := by
  have hn : n ≠ 0 := by
    rintro rfl
    rw [Nat.log2_zero] at h
    omega
  have hbits := (leadingBits_bounds hn).1
  rw [nearest_whole hn, Binary64.infinity_eq]
  omega

/-! ### Decimals without an exponent -/

/-- Every 62 decimal digits are worth at least 205 bits. -/
theorem le_log2_of_lt_length {n k : ℕ} (hk : 0 < k) (h : 62 * k < (Nat.toDigits 10 n).length) :
    205 * k ≤ Nat.log2 n := by
  rw [← not_le, Nat.length_toDigits_le_iff (by decide) (by omega), not_lt] at h
  have hpow : 2 ^ (205 * k) ≤ 10 ^ (62 * k) := by
    rw [Nat.pow_mul, Nat.pow_mul]
    exact Nat.pow_le_pow_left (by decide) k
  have hn : n ≠ 0 := (Nat.pos_of_ne_zero fun hzero => by simp [hzero] at h).ne'
  exact (Nat.le_log2 hn).2 (hpow.trans h)

/-- **A whole decimal is rounded as a whole number.** What is cut short for being too large is
infinite in any case. -/
theorem Decimal.toBinary64_whole (negative : Bool) (n : ℕ) :
    (Decimal.mk negative n 0).toBinary64 = .ofSign negative (binary64.nearest n 1) := by
  have hpositive : 0 < (Nat.toDigits 10 n).length := Nat.length_toDigits_pos
  have hfraction : (Decimal.mk negative n 0).fraction = (n, 1) := by
    simp [fraction, powerOfTen]
  rw [toBinary64, hfraction]
  congr 1
  simp only [leadingExponent, add_zero]
  split_ifs with hzero hlarge hsmall
  · rw [hzero, BinaryFormat.nearest, if_pos rfl]
  · have hlog := le_log2_of_lt_length (n := n) (k := 5) (by decide) (by omega)
    exact (nearest_eq_infinity (by omega)).symm
  · omega
  · rfl

namespace Binary64

theorem magnitude_ofInt (n : ℤ) : (ofInt n).magnitude = binary64.nearest n.natAbs 1 :=
  magnitude_ofSign ((nearest_le_infinity _).trans_lt (by decide))

theorem negative_ofInt (n : ℤ) : (ofInt n).negative = decide (n < 0) :=
  negative_ofSign ((nearest_le_infinity _).trans_lt (by decide))

theorem isNaN_ofInt (n : ℤ) : (ofInt n).isNaN = false := by
  rw [isNaN, magnitude_ofInt, decide_eq_false_iff_not, not_lt]
  exact nearest_le_infinity _

theorem absValue_le_iff {x y : Binary64} : x.absValue ≤ y.absValue ↔ x.magnitude ≤ y.magnitude := by
  rw [absValue_eq_units, absValue_eq_units, mul_le_mul_iff_left₀ unit_pos, Nat.cast_le,
    unitsOf_strictMono.le_iff_le]

/-- A word without fraction bits stands for a power of two. -/
theorem absValue_of_magnitude_eq {x : Binary64} {k : ℕ} (h : x.magnitude = 2 ^ 52 * (1023 + k)) :
    x.absValue = 2 ^ k := by
  have hexponent : x.exponentField = 1023 + k := by
    rw [exponentField, h, powerOfTwo_eq, Nat.mul_div_cancel_left _ (by decide)]
  have hfraction : x.fractionField = 0 := by
    rw [fractionField, h, powerOfTwo_eq, Nat.mul_mod_right]
  have hpower : ((1023 + k : ℕ) : ℤ) - 1023 = k := by omega
  rw [absValue_eq, hexponent, hfraction, if_neg (by omega), hpower]
  simp

/-! ### Whole numbers beyond the words -/

/-- What is too large for an unsigned word is not rounded down to one. -/
theorem le_value_ofInt {m : ℤ} (h : 2 ^ 64 ≤ m) : 2 ^ 64 ≤ (ofInt m).value := by
  have hlimit : (ofInt (2 ^ 64)).absValue = 2 ^ 64 :=
    absValue_of_magnitude_eq (by rw [magnitude_ofInt]; decide +kernel)
  have hnegative : (ofInt m).negative = false := by
    rw [negative_ofInt, decide_eq_false_iff_not]
    omega
  rw [value, hnegative, if_neg Bool.false_ne_true, ← hlimit, absValue_le_iff, magnitude_ofInt,
    magnitude_ofInt]
  exact nearest_mono (by omega)

theorem value_ofInt_of_neg {m : ℤ} (h : m < 0) : (ofInt m).value = -(ofInt m).absValue := by
  rw [value, negative_ofInt, decide_eq_true h, if_pos rfl]

/-- Below the smallest signed word the doubles are `2 ^ 11` apart, and a tie goes to the even one. So
the 1024 whole numbers below that word are rounded to it. -/
theorem value_ofInt_of_near {m : ℤ} (hlow : -2 ^ 63 - 1024 ≤ m) (hhigh : m < -2 ^ 63) :
    (ofInt m).value = -2 ^ 63 := by
  have hfirst : binary64.nearest (2 ^ 63) 1 = 2 ^ 52 * (1023 + 63) := by decide +kernel
  have hlast : binary64.nearest (2 ^ 63 + 1024) 1 = 2 ^ 52 * (1023 + 63) := by decide +kernel
  have hmagnitude : (ofInt m).magnitude = 2 ^ 52 * (1023 + 63) := by
    rw [magnitude_ofInt]
    apply le_antisymm
    · rw [← hlast]
      exact nearest_mono (by omega)
    · rw [← hfirst]
      exact nearest_mono (by omega)
  rw [value_ofInt_of_neg (by omega), absValue_of_magnitude_eq hmagnitude]

/-- What is below these is not rounded to a word. -/
theorem value_ofInt_lt {m : ℤ} (h : m < -2 ^ 63 - 1024) : (ofInt m).value < -2 ^ 63 := by
  have hlimit : (ofInt (-2 ^ 63)).absValue = 2 ^ 63 :=
    absValue_of_magnitude_eq (by rw [magnitude_ofInt]; decide +kernel)
  have hnext : (ofInt (-2 ^ 63)).magnitude < binary64.nearest (2 ^ 63 + 1025) 1 := by
    rw [magnitude_ofInt]
    decide +kernel
  have hbelow : (ofInt (-2 ^ 63)).absValue < (ofInt m).absValue := by
    rw [lt_iff_lt_of_le_iff_le absValue_le_iff, magnitude_ofInt m]
    exact hnext.trans_le (nearest_mono (by omega))
  rw [value_ofInt_of_neg (by omega)]
  linarith

end Binary64

end KeyedFilter
