import KeyedFilter.Proofs.Number.Rounding

/-!
# Rounding to the nearest double

A decimal numeral is rounded by whole numbers only. It is brought into units of the last bit that a
double of its size has, and these are rounded to a whole number, a half to the even one. The word of
the double is read off that number, with a carry where it is a power of two. Here this is shown to be
rounding as it should be: no double is nearer to the numeral, and of two that are equally near the
one with the even word is taken. As usual, an infinity stands for the power of two that comes after
the largest double, and its word is even.

* `NearestWhole`, `divNearestEven_nearest`: rounding to a whole number.
* `NearestMagnitude`, `nearestMagnitude_nearest`: rounding to a double without its sign.
* `NearestMagnitude.unique`: there is only one such double.
* `Binary64.IsNearest`, `Decimal.toBinary64_eq_iff`: rounding of decimals with a sign.
-/

namespace KeyedFilter

/-! ### To the nearest whole number -/

/-- A whole number that differs from `r` by at most a half, and by a half only if it is even. -/
def NearestWhole (r : ℚ) (n : ℕ) : Prop :=
  |n - r| ≤ 1 / 2 ∧ (|n - r| = 1 / 2 → n % 2 = 0)

theorem divNearestEven_nearest (a : ℕ) {d : ℕ} (hd : 0 < d) :
    NearestWhole ((a : ℚ) / d) (divNearestEven a d) := by
  have hdRat : (0 : ℚ) < d := by exact_mod_cast hd
  have hlt : a % d < d := Nat.mod_lt a hd
  have hsplit : (a : ℚ) / d = (a / d : ℕ) + ((a % d : ℕ) : ℚ) / d := by
    rw [div_eq_iff hdRat.ne', add_mul, div_mul_cancel₀ _ hdRat.ne']
    exact_mod_cast (Nat.div_add_mod' a d).symm
  have hhalf : ((a % d : ℕ) : ℚ) / d = 1 / 2 ↔ 2 * (a % d) = d := by
    rw [div_eq_div_iff hdRat.ne' two_ne_zero, one_mul, mul_comm]
    exact_mod_cast Iff.rfl
  have hmore : 1 / 2 < ((a % d : ℕ) : ℚ) / d ↔ d < 2 * (a % d) := by
    rw [div_lt_div_iff₀ two_pos hdRat, one_mul, mul_comm]
    exact_mod_cast Iff.rfl
  have hone : ((a % d : ℕ) : ℚ) / d < 1 := by
    rw [div_lt_one hdRat]
    exact_mod_cast hlt
  have hnonneg : 0 ≤ ((a % d : ℕ) : ℚ) / d := by positivity
  rw [hsplit]
  simp only [divNearestEven, Bool.or_eq_true, Bool.and_eq_true, decide_eq_true_eq, beq_iff_eq]
  generalize ((a % d : ℕ) : ℚ) / d = f at *
  split_ifs with hup
  · -- rounded up: the fraction is more than a half, or a half behind an odd number
    have habs : |((a / d + 1 : ℕ) : ℚ) - ((a / d : ℕ) + f)| = 1 - f := by
      rw [abs_of_nonneg] <;> push_cast <;> linarith
    rw [NearestWhole, habs]
    rcases hup with hup | ⟨heq, hodd⟩
    · have := hmore.2 hup
      exact ⟨by linarith, fun h => by linarith⟩
    · have := hhalf.2 heq
      exact ⟨by linarith, fun _ => by omega⟩
  · have habs : |((a / d : ℕ) : ℚ) - ((a / d : ℕ) + f)| = f := by
      rw [abs_sub_comm, abs_of_nonneg] <;> linarith
    rw [NearestWhole, habs]
    have hle : f ≤ 1 / 2 := not_lt.1 fun h => hup (.inl (hmore.1 h))
    refine ⟨hle, fun h => ?_⟩
    have heq := hhalf.1 h
    omega

/-- No other whole number is nearer, and one that is as near leaves the even one. -/
theorem NearestWhole.le {r : ℚ} {n : ℕ} (h : NearestWhole r n) {j : ℕ} (hj : j ≠ n) :
    |n - r| ≤ |j - r| ∧ (|j - r| = |n - r| → n % 2 = 0) := by
  obtain ⟨hhalf, heven⟩ := h
  have hapart : (1 : ℚ) ≤ |(j : ℚ) - n| := by
    have hint : (1 : ℤ) ≤ |(j : ℤ) - n| := Int.one_le_abs (sub_ne_zero.2 (by exact_mod_cast hj))
    exact_mod_cast hint
  have htriangle : |(j : ℚ) - n| ≤ |j - r| + |n - r| := by
    rw [abs_sub_comm (n : ℚ) r]
    exact abs_sub_le _ _ _
  exact ⟨by linarith, fun heq => heven (by linarith)⟩

theorem NearestWhole.le_of_le {r : ℚ} {n : ℕ} (h : NearestWhole r n) {k : ℕ} (hr : r ≤ k) :
    n ≤ k := by
  by_contra hlt
  have hsucc : (k : ℚ) + 1 ≤ n := by exact_mod_cast not_le.1 hlt
  have := le_trans (le_abs_self _) h.1
  linarith

theorem NearestWhole.le_of_ge {r : ℚ} {n : ℕ} (h : NearestWhole r n) {k : ℕ} (hr : k ≤ r) :
    k ≤ n := by
  by_contra hlt
  have hsucc : (n : ℚ) + 1 ≤ k := by exact_mod_cast not_le.1 hlt
  have := le_trans (neg_le_abs _) h.1
  linarith

theorem inUnits_nearest (num : ℕ) {den : ℕ} (hden : 0 < den) (e : ℤ) :
    NearestWhole ((num : ℚ) / den / 2 ^ e) (inUnits num den e) := by
  unfold inUnits
  split_ifs with he
  · have hvalue : (num : ℚ) / den / 2 ^ e = num / (den * powerOfTwo e.toNat : ℕ) := by
      rw [powerOfTwo_eq, div_div]
      push_cast
      rw [← zpow_natCast, Int.toNat_of_nonneg he]
    rw [hvalue]
    exact divNearestEven_nearest num (Nat.mul_pos hden (Nat.two_pow_pos _))
  · have hvalue : (num : ℚ) / den / 2 ^ e = (num * powerOfTwo (-e).toNat : ℕ) / den := by
      rw [powerOfTwo_eq, div_div, mul_comm, ← div_div, div_eq_mul_inv (num : ℚ), ← zpow_neg]
      push_cast
      rw [← zpow_natCast, Int.toNat_of_nonneg (by omega)]
    rw [hvalue]
    exact divNearestEven_nearest _ hden

/-! ### The size of a fraction -/

theorem reachesPower_iff {num den : ℕ} (hden : 0 < den) (e : ℤ) :
    reachesPower num den e = true ↔ (2 : ℚ) ^ e ≤ num / den := by
  have hdenRat : (0 : ℚ) < den := by exact_mod_cast hden
  rw [le_div_iff₀ hdenRat, reachesPower]
  split_ifs with he
  · rw [decide_eq_true_iff, powerOfTwo_eq, mul_comm]
    conv_rhs => rw [← Int.toNat_of_nonneg he, zpow_natCast]
    exact_mod_cast Iff.rfl
  · have hneg : (2 : ℚ) ^ e = (2 ^ (-e).toNat)⁻¹ := by
      rw [← zpow_natCast, Int.toNat_of_nonneg (by omega), zpow_neg, inv_inv]
    rw [decide_eq_true_iff, powerOfTwo_eq, hneg, inv_mul_le_iff₀ (by positivity), mul_comm]
    exact_mod_cast Iff.rfl

/-- A fraction lies between the power of two with its exponent and the next one. -/
theorem binaryExponent_bounds {num den : ℕ} (hnum : num ≠ 0) (hden : den ≠ 0) :
    (2 : ℚ) ^ binaryExponent num den ≤ num / den ∧
      (num : ℚ) / den < 2 ^ (binaryExponent num den + 1) := by
  have hdenRat : (0 : ℚ) < den := by exact_mod_cast Nat.pos_of_ne_zero hden
  have hpow : ∀ k : ℕ, ((2 ^ k : ℕ) : ℚ) = 2 ^ (k : ℤ) := fun k => by push_cast; rw [zpow_natCast]
  have hnumLow : (2 : ℚ) ^ (Nat.log2 num : ℤ) ≤ num := by
    rw [← hpow]
    exact_mod_cast Nat.log2_self_le hnum
  have hnumHigh : (num : ℚ) < 2 ^ ((Nat.log2 num : ℤ) + 1) := by
    have : num < 2 ^ (Nat.log2 num + 1) := Nat.lt_log2_self
    exact_mod_cast this
  have hdenLow : (2 : ℚ) ^ (Nat.log2 den : ℤ) ≤ den := by
    rw [← hpow]
    exact_mod_cast Nat.log2_self_le hden
  have hdenHigh : (den : ℚ) ≤ 2 ^ ((Nat.log2 den : ℤ) + 1) := by
    have : den < 2 ^ (Nat.log2 den + 1) := Nat.lt_log2_self
    exact_mod_cast this.le
  have hbelow : (2 : ℚ) ^ ((Nat.log2 num : ℤ) - Nat.log2 den - 1) ≤ num / den := by
    rw [le_div_iff₀ hdenRat]
    calc (2 : ℚ) ^ ((Nat.log2 num : ℤ) - Nat.log2 den - 1) * den
        ≤ 2 ^ ((Nat.log2 num : ℤ) - Nat.log2 den - 1) * 2 ^ ((Nat.log2 den : ℤ) + 1) := by gcongr
      _ = 2 ^ (Nat.log2 num : ℤ) := by rw [← zpow_add₀ two_ne_zero]; congr 1; ring
      _ ≤ num := hnumLow
  have habove : (num : ℚ) / den < 2 ^ ((Nat.log2 num : ℤ) - Nat.log2 den + 1) := by
    rw [div_lt_iff₀ hdenRat]
    calc (num : ℚ) < 2 ^ ((Nat.log2 num : ℤ) + 1) := hnumHigh
      _ = 2 ^ ((Nat.log2 num : ℤ) - Nat.log2 den + 1) * 2 ^ (Nat.log2 den : ℤ) := by
        rw [← zpow_add₀ two_ne_zero]; congr 1; ring
      _ ≤ 2 ^ ((Nat.log2 num : ℤ) - Nat.log2 den + 1) * den := by gcongr
  unfold binaryExponent
  simp only [reachesPower_iff (Nat.pos_of_ne_zero hden)]
  split_ifs with hguess
  · exact ⟨hguess, habove⟩
  · rw [sub_add_cancel]
    exact ⟨hbelow, not_le.1 hguess⟩

/-! ### Doubles in units -/

/-- A number in units of `2 ^ step` of the smallest double is read off its word: the fraction bits of
the number stand behind the exponent, and a power of two carries into it. -/
theorem unitsOf_step {step n : ℕ} (hn : n ≤ 2 ^ 53) (h : step = 0 ∨ 2 ^ 52 ≤ n) :
    unitsOf (step * 2 ^ 52 + n) = n * 2 ^ step := by
  rcases Nat.lt_or_ge n (2 ^ 52) with hsmall | hlarge
  · obtain rfl : step = 0 := h.resolve_right (by omega)
    have hdiv : (0 * 2 ^ 52 + n) / 2 ^ 52 = 0 := by omega
    have hmod : (0 * 2 ^ 52 + n) % 2 ^ 52 = n := by omega
    rw [unitsOf, hdiv, hmod]
    rfl
  · rcases Nat.lt_or_ge n (2 ^ 53) with hfits | hcarry
    · have hdiv : (step * 2 ^ 52 + n) / 2 ^ 52 = step + 1 := by omega
      have hmod : (step * 2 ^ 52 + n) % 2 ^ 52 = n - 2 ^ 52 := by omega
      rw [unitsOf, hdiv, hmod, if_neg (Nat.succ_ne_zero _), Nat.add_sub_cancel' hlarge]
      congr 2
      omega
    · obtain rfl : n = 2 ^ 53 := by omega
      have hdiv : (step * 2 ^ 52 + 2 ^ 53) / 2 ^ 52 = step + 2 := by omega
      have hmod : (step * 2 ^ 52 + 2 ^ 53) % 2 ^ 52 = 0 := by omega
      have hmax : max (step + 2) 1 - 1 = step + 1 := by omega
      rw [unitsOf, hdiv, hmod, if_neg (Nat.succ_ne_zero _), hmax, Nat.pow_succ 2 step]
      ring

/-- Every double is a number of units of `2 ^ step`, unless it is below all that have a full
significand in these units. -/
theorem unitsOf_cases (step k : ℕ) :
    (∃ j, unitsOf k = j * 2 ^ step) ∨ (0 < step ∧ unitsOf k < 2 ^ 52 * 2 ^ step) := by
  by_cases hstep : step ≤ max (k / 2 ^ 52) 1 - 1
  · obtain ⟨c, hc⟩ := Nat.exists_eq_add_of_le hstep
    refine .inl ⟨(if k / 2 ^ 52 = 0 then k % 2 ^ 52 else 2 ^ 52 + k % 2 ^ 52) * 2 ^ c, ?_⟩
    rw [unitsOf, hc, Nat.pow_add]
    ring
  · have hlimit : unitsOf (step * 2 ^ 52 + 2 ^ 52) = 2 ^ 52 * 2 ^ step :=
      unitsOf_step (by omega) (.inr le_rfl)
    refine .inr ⟨by omega, ?_⟩
    rw [← hlimit]
    exact unitsOf_strictMono (by omega)

/-! ### To the nearest double without its sign -/

/-- The word of a double without its sign, or of infinity, to which no other is preferred in
rounding `r` units: none is nearer, and one that is as near leaves the even word. -/
structure NearestMagnitude (r : ℚ) (m : ℕ) : Prop where
  le_infinity : m ≤ binary64.infinity
  nearest : ∀ k ≤ binary64.infinity, |unitsOf m - r| ≤ |unitsOf k - r|
  even : ∀ k ≤ binary64.infinity, k ≠ m → |(unitsOf k : ℚ) - r| = |unitsOf m - r| → m % 2 = 0

variable {r : ℚ} {m m' : ℕ}

theorem unitsOf_lt_cast {j k : ℕ} (h : j < k) : (unitsOf j : ℚ) < unitsOf k := by
  exact_mod_cast unitsOf_strictMono h

/-- What is too large for a double is rounded to infinity. -/
theorem nearestMagnitude_infinity (h : (unitsOf binary64.infinity : ℚ) ≤ r) :
    NearestMagnitude r binary64.infinity := by
  have hnearer : ∀ k ≤ binary64.infinity, k ≠ binary64.infinity →
      |(unitsOf binary64.infinity : ℚ) - r| < |unitsOf k - r| := by
    intro k hk hne
    have hlt := unitsOf_lt_cast (lt_of_le_of_ne hk hne)
    rw [abs_of_nonpos (by linarith), abs_of_nonpos (by linarith)]
    linarith
  refine ⟨le_rfl, fun k hk => ?_, fun k hk hne heq => absurd heq (hnearer k hk hne).ne'⟩
  by_cases hne : k = binary64.infinity
  · rw [hne]
  · exact (hnearer k hk hne).le

/-- What is less than half the smallest double is rounded to zero. -/
theorem nearestMagnitude_zero (hnonneg : 0 ≤ r) (h : r < 1 / 2) : NearestMagnitude r 0 := by
  have hnearer : ∀ k, k ≠ 0 → |((unitsOf 0 : ℕ) : ℚ) - r| < |unitsOf k - r| := by
    intro k hk
    have hone : (1 : ℚ) ≤ unitsOf k := by
      have := unitsOf_strictMono (Nat.pos_of_ne_zero hk)
      rw [unitsOf_zero] at this
      exact_mod_cast this
    rw [unitsOf_zero, Nat.cast_zero, zero_sub, abs_neg, abs_of_nonneg hnonneg,
      abs_of_nonneg (by linarith)]
    linarith
  refine ⟨Nat.zero_le _, fun k _ => ?_, fun k _ hne heq => absurd heq (hnearer k hne).ne'⟩
  by_cases hk : k = 0
  · rw [hk]
  · exact (hnearer k hk).le

theorem abs_sub_lt_of_between {a b c : ℚ} (hab : a < b) (hbc : b < c) (h : |a - r| = |c - r|) :
    |b - r| < |a - r| := by
  rcases abs_eq_abs.1 h with hsame | hopposite
  · linarith
  · rw [abs_of_nonpos (by linarith : a - r ≤ 0), abs_lt]
    constructor <;> linarith

/-- Two doubles that are equally near would both be even, and there would be one between them. -/
theorem NearestMagnitude.unique (h : NearestMagnitude r m) (h' : NearestMagnitude r m') :
    m = m' := by
  by_contra hne
  wlog hlt : m < m' generalizing m m'
  · exact this h' h (Ne.symm hne) (by omega)
  have heq : |(unitsOf m : ℚ) - r| = |unitsOf m' - r| :=
    le_antisymm (h.nearest m' h'.le_infinity) (h'.nearest m h.le_infinity)
  have heven := h.even m' h'.le_infinity (Ne.symm hne) heq.symm
  have heven' := h'.even m h.le_infinity hne heq
  have hbetween : m + 1 < m' := by omega
  exact absurd (h.nearest (m + 1) (hbetween.le.trans h'.le_infinity)) (not_le.2
    (abs_sub_lt_of_between (unitsOf_lt_cast (Nat.lt_add_one m)) (unitsOf_lt_cast hbetween) heq))

/-- A number that is not below the doubles with a full significand is rounded in the units of their
last bit. A double in finer units is below them all, so the first of them is nearer. -/
theorem preferred_of_nearestWhole {s : ℚ} {step n : ℕ} (hnear : NearestWhole s n)
    (hfits : n ≤ 2 ^ 53) (hfull : 0 < step → (2 ^ 52 : ℕ) ≤ s) {k : ℕ}
    (hk : k ≠ step * 2 ^ 52 + n) :
    |(unitsOf (step * 2 ^ 52 + n) : ℚ) - s * 2 ^ step| ≤ |unitsOf k - s * 2 ^ step| ∧
      (|(unitsOf k : ℚ) - s * 2 ^ step| = |unitsOf (step * 2 ^ 52 + n) - s * 2 ^ step| →
        (step * 2 ^ 52 + n) % 2 = 0) := by
  have hnormal : step = 0 ∨ 2 ^ 52 ≤ n :=
    (Nat.eq_zero_or_pos step).imp_right fun hstep => hnear.le_of_ge (hfull hstep)
  have hpos : (0 : ℚ) < 2 ^ step := by positivity
  have hdist : ∀ a : ℕ, |((a * 2 ^ step : ℕ) : ℚ) - s * 2 ^ step| = |a - s| * 2 ^ step := by
    intro a
    rw [Nat.cast_mul, Nat.cast_pow, Nat.cast_ofNat, ← sub_mul, abs_mul, abs_of_pos hpos]
  have hparity : n % 2 = 0 → (step * 2 ^ 52 + n) % 2 = 0 := by omega
  have hword : unitsOf (step * 2 ^ 52 + n) = n * 2 ^ step := unitsOf_step hfits hnormal
  rw [hword, hdist]
  rcases unitsOf_cases step k with ⟨j, hj⟩ | ⟨hstep, hbelow⟩
  · have hne : j ≠ n := by
      rintro rfl
      exact hk (unitsOf_strictMono.injective (hj.trans hword.symm))
    obtain ⟨hle, htie⟩ := hnear.le hne
    rw [hj, hdist, mul_le_mul_iff_left₀ hpos, mul_left_inj' hpos.ne']
    exact ⟨hle, fun heq => hparity (htie heq)⟩
  · have hfirst := hfull hstep
    have hle : |n - s| ≤ |((2 ^ 52 : ℕ) : ℚ) - s| := by
      by_cases hn : 2 ^ 52 = n
      · rw [← hn]
      · exact (hnear.le hn).1
    have hlt : |((2 ^ 52 : ℕ) : ℚ) - s| * 2 ^ step < |(unitsOf k : ℚ) - s * 2 ^ step| := by
      have hbelowRat : (unitsOf k : ℚ) < (2 ^ 52 : ℕ) * 2 ^ step := by exact_mod_cast hbelow
      have hscaled : ((2 ^ 52 : ℕ) : ℚ) * 2 ^ step ≤ s * 2 ^ step :=
        mul_le_mul_of_nonneg_right hfirst hpos.le
      rw [abs_of_nonpos (by linarith), abs_of_nonpos (by linarith)]
      linarith
    have hnearer := (mul_le_mul_of_nonneg_right hle hpos.le).trans_lt hlt
    exact ⟨hnearer.le, fun heq => absurd heq hnearer.ne'⟩

/-- What is rounded beyond infinity is rounded to infinity. -/
theorem nearestMagnitude_min {word : ℕ}
    (hpreferred : ∀ k ≠ word, |(unitsOf word : ℚ) - r| ≤ |unitsOf k - r| ∧
      (|(unitsOf k : ℚ) - r| = |unitsOf word - r| → word % 2 = 0)) :
    NearestMagnitude r (min word binary64.infinity) := by
  by_cases hinf : word ≤ binary64.infinity
  · rw [min_eq_left hinf]
    refine ⟨hinf, fun k _ => ?_, fun k _ hk heq => (hpreferred k hk).2 heq⟩
    by_cases hk : k = word
    · rw [hk]
    · exact (hpreferred k hk).1
  · -- a word behind that of infinity is nearer than infinity, so the number is beyond it
    rw [min_eq_right (not_le.1 hinf).le]
    apply nearestMagnitude_infinity
    have hbeyond := unitsOf_lt_cast (not_le.1 hinf)
    have hle := (hpreferred binary64.infinity (by omega)).1
    by_contra hlt
    rw [not_le] at hlt
    rw [abs_of_pos (by linarith), abs_of_pos (by linarith)] at hle
    linarith

/-- **A fraction is rounded to the nearest double.** -/
theorem nearestMagnitude_nearest (num : ℕ) {den : ℕ} (hden : 0 < den) :
    NearestMagnitude ((num : ℚ) / den / Binary64.unit) (binary64.nearest num den) := by
  rcases Nat.eq_zero_or_pos num with rfl | hnum
  · rw [BinaryFormat.nearest, if_pos rfl, Nat.cast_zero, zero_div, zero_div]
    exact nearestMagnitude_zero le_rfl (by norm_num)
  · obtain ⟨hlow, hhigh⟩ := binaryExponent_bounds hnum.ne' hden.ne'
    obtain ⟨unit, hunit⟩ : ∃ unit, unit = max (binaryExponent num den - 52) (-1074) := ⟨_, rfl⟩
    obtain ⟨step, hstep⟩ : ∃ step : ℕ, (step : ℤ) = unit + 1074 := ⟨(unit + 1074).toNat, by omega⟩
    have hnear : NearestWhole ((num : ℚ) / den / 2 ^ unit) (inUnits num den unit) :=
      inUnits_nearest num hden unit
    have hscale : (num : ℚ) / den / Binary64.unit = (num : ℚ) / den / 2 ^ unit * 2 ^ step := by
      rw [Binary64.unit, ← zpow_natCast, hstep, zpow_add₀ two_ne_zero, zpow_neg]
      field_simp
    have hfits : (num : ℚ) / den / 2 ^ unit ≤ (2 ^ 53 : ℕ) := by
      rw [div_le_iff₀ (by positivity)]
      calc (num : ℚ) / den ≤ 2 ^ (binaryExponent num den + 1) := hhigh.le
        _ ≤ 2 ^ (53 + unit) := zpow_le_zpow_right₀ one_le_two (by omega)
        _ = (2 ^ 53 : ℕ) * 2 ^ unit := by rw [zpow_add₀ two_ne_zero]; norm_num
    have hfull : 0 < step → (2 ^ 52 : ℕ) ≤ (num : ℚ) / den / 2 ^ unit := by
      intro hpos
      rw [le_div_iff₀ (by positivity)]
      calc ((2 ^ 52 : ℕ) : ℚ) * 2 ^ unit = 2 ^ (52 + unit) := by
            rw [zpow_add₀ two_ne_zero]; norm_num
        _ = 2 ^ binaryExponent num den := by congr 1; omega
        _ ≤ num / den := hlow
    have hword : binary64.nearest num den =
        min (step * 2 ^ 52 + inUnits num den unit) binary64.infinity := by
      have hsteps : (unit - -1074).toNat = step := by omega
      simp only [BinaryFormat.nearest, if_neg hnum.ne', powerOfTwo_eq, binary64, Nat.cast_ofNat,
        ← hunit, hsteps]
    rw [hword]
    apply nearestMagnitude_min
    intro k hk
    rw [hscale]
    exact preferred_of_nearestWhole hnear (hnear.le_of_le hfits) hfull hk

/-! ### To the nearest double -/

namespace Binary64

/-- A double to which no other is preferred in rounding `q`. As a value, an infinity is the power of
two behind the largest double. -/
structure IsNearest (x : Binary64) (q : ℚ) : Prop where
  isNaN : x.isNaN = false
  nearest : ∀ y : Binary64, y.isNaN = false → |x.value - q| ≤ |y.value - q|
  even : ∀ y : Binary64, y.isNaN = false → y.value ≠ x.value →
    |y.value - q| = |x.value - q| → x.bits.toNat % 2 = 0

variable {x y : Binary64} {a : ℚ}

theorem absValue_of_isInfinite (h : x.isInfinite = true) : x.absValue = 2 ^ 1024 :=
  absValue_of_magnitude_eq (beq_iff_eq.1 h)

theorem isNaN_eq_false_iff : x.isNaN = false ↔ x.magnitude ≤ binary64.infinity := by
  rw [isNaN, decide_eq_false_iff_not, not_lt]

theorem bits_mod_two (x : Binary64) : x.bits.toNat % 2 = x.magnitude % 2 := by
  unfold magnitude
  rw [powerOfTwo_eq]
  omega

theorem eq_of_magnitude_eq (hnegative : x.negative = y.negative)
    (hmagnitude : x.magnitude = y.magnitude) : x = y := by
  have hx := x.bits.toNat_lt
  have hy := y.bits.toNat_lt
  obtain ⟨x⟩ := x
  obtain ⟨y⟩ := y
  rw [negative_eq, negative_eq, decide_eq_decide] at hnegative
  simp only [magnitude, powerOfTwo_eq] at hnegative hmagnitude hx hy
  rw [Binary64.mk.injEq, ← UInt64.toNat_inj]
  omega

/-- A number with a sign. -/
def signed (negative : Bool) (a : ℚ) : ℚ := if negative then -a else a

theorem value_eq_signed (x : Binary64) : x.value = signed x.negative x.absValue := rfl

theorem abs_signed_sub (negative : Bool) (a b : ℚ) :
    |signed negative a - signed negative b| = |a - b| := by
  unfold signed
  split_ifs
  · rw [neg_sub_neg, abs_sub_comm]
  · rfl

theorem signed_injective (negative : Bool) : Function.Injective (signed negative) := by
  intro a b h
  rwa [← sub_eq_zero, ← abs_eq_zero, abs_signed_sub, abs_eq_zero, sub_eq_zero] at h

/-- With other signs numbers are farther apart. -/
theorem abs_sub_le_signed (negative negative' : Bool) {a b : ℚ} (ha : 0 ≤ a) (hb : 0 ≤ b) :
    |a - b| ≤ |signed negative a - signed negative' b| := by
  have hsum : |a - b| ≤ a + b := abs_le.2 ⟨by linarith, by linarith⟩
  unfold signed
  split_ifs
  · rw [neg_sub_neg, abs_sub_comm]
  · rw [abs_of_nonpos (by linarith : -a - b ≤ 0)]
    linarith
  · rw [abs_of_nonneg (by linarith : 0 ≤ a - -b)]
    linarith
  · rfl

theorem abs_absValue_sub (x : Binary64) (a : ℚ) :
    |x.absValue - a| = |unitsOf x.magnitude - a / unit| * unit := by
  have hscaled : x.absValue - a = (unitsOf x.magnitude - a / unit) * unit := by
    rw [absValue_eq_units, sub_mul, div_mul_cancel₀ _ unit_pos.ne']
  rw [hscaled, abs_mul, abs_of_pos unit_pos]

theorem abs_value_sub {negative : Bool} (hsign : y.negative = negative) (a : ℚ) :
    |y.value - signed negative a| = |unitsOf y.magnitude - a / unit| * unit := by
  rw [value_eq_signed, hsign, abs_signed_sub, abs_absValue_sub]

theorem le_abs_value_sub (y : Binary64) (negative : Bool) (ha : 0 ≤ a) :
    |unitsOf y.magnitude - a / unit| * unit ≤ |y.value - signed negative a| := by
  rw [value_eq_signed, ← abs_absValue_sub]
  exact abs_sub_le_signed _ _ y.absValue_nonneg ha

/-- Two doubles of one sign and one value have the same magnitude. -/
theorem magnitude_eq_of_value_eq (hsign : y.negative = x.negative) (hvalue : y.value = x.value) :
    y.magnitude = x.magnitude := by
  rw [value_eq_signed, value_eq_signed, hsign] at hvalue
  have habs := signed_injective _ hvalue
  exact le_antisymm (absValue_le_iff.1 habs.le) (absValue_le_iff.1 habs.ge)

theorem exists_of_le_infinity (negative : Bool) {k : ℕ} (hk : k ≤ binary64.infinity) :
    ∃ y : Binary64, y.negative = negative ∧ y.magnitude = k ∧ y.isNaN = false := by
  have hlt : k < 2 ^ 63 := hk.trans_lt (by decide)
  refine ⟨ofSign negative k, negative_ofSign hlt, magnitude_ofSign hlt, isNaN_eq_false_iff.2 ?_⟩
  rwa [magnitude_ofSign hlt]

/-- With the other sign, a number is as near only if both are zero. -/
theorem signed_eq_of_abs_eq {negative negative' : Bool} {a b : ℚ} (ha : 0 ≤ a) (hb : 0 ≤ b)
    (hzero : |b - a| ≤ a)
    (heq : |signed negative' b - signed negative a| = |signed negative b - signed negative a|) :
    signed negative' b = signed negative b := by
  rw [abs_signed_sub] at heq
  by_cases hsign : negative' = negative
  · rw [hsign]
  · have hsum : |b - a| = b + a := by
      rw [← heq]
      unfold signed
      cases negative <;> cases negative' <;> first | exact absurd rfl hsign | skip
      · rw [if_pos rfl, if_neg Bool.false_ne_true, abs_of_nonpos (by linarith)]
        ring
      · rw [if_pos rfl, if_neg Bool.false_ne_true, sub_neg_eq_add, abs_of_nonneg (by linarith)]
    have hzero' : b = 0 := by linarith
    simp only [signed, hzero', neg_zero, ite_self]

/-- A number is rounded with its sign as it is without. -/
theorem isNearest_iff (ha : 0 ≤ a) :
    x.IsNearest (signed x.negative a) ↔ NearestMagnitude (a / unit) x.magnitude := by
  constructor
  · -- the doubles of the same sign are enough to tell
    rintro ⟨hnan, hnearest, heven⟩
    refine ⟨isNaN_eq_false_iff.1 hnan, fun k hk => ?_, fun k hk hne heq => ?_⟩
    · obtain ⟨y, hsign, rfl, hy⟩ := exists_of_le_infinity x.negative hk
      have hle := hnearest y hy
      rwa [abs_value_sub rfl, abs_value_sub hsign, mul_le_mul_iff_left₀ unit_pos] at hle
    · obtain ⟨y, hsign, rfl, hy⟩ := exists_of_le_infinity x.negative hk
      rw [← bits_mod_two]
      refine heven y hy (fun hvalue => hne (magnitude_eq_of_value_eq hsign hvalue)) ?_
      rw [abs_value_sub hsign, abs_value_sub rfl, heq]
  · intro h
    have hle : ∀ y : Binary64, y.isNaN = false →
        |x.value - signed x.negative a| ≤ |unitsOf y.magnitude - a / unit| * unit := by
      intro y hy
      rw [abs_value_sub rfl, mul_le_mul_iff_left₀ unit_pos]
      exact h.nearest y.magnitude (isNaN_eq_false_iff.1 hy)
    refine ⟨isNaN_eq_false_iff.2 h.le_infinity, fun y hy => ?_, fun y hy hne heq => ?_⟩
    · exact (hle y hy).trans (le_abs_value_sub y _ ha)
    · rw [bits_mod_two]
      by_cases hk : y.magnitude = x.magnitude
      · -- such a double differs in its sign only, and of these two one is nearer, unless both are zero
        have habs : y.absValue = x.absValue := by rw [absValue_eq_units, hk, absValue_eq_units]
        have hzero : |x.absValue - a| ≤ a := by
          have hle := mul_le_mul_of_nonneg_right (h.nearest 0 (Nat.zero_le _)) unit_pos.le
          rwa [← abs_absValue_sub, unitsOf_zero, Nat.cast_zero, zero_sub, abs_neg,
            abs_of_nonneg (div_nonneg ha unit_pos.le), div_mul_cancel₀ _ unit_pos.ne'] at hle
        rw [value_eq_signed, value_eq_signed x, habs] at heq hne
        exact absurd (signed_eq_of_abs_eq ha x.absValue_nonneg hzero heq) hne
      · refine h.even y.magnitude (isNaN_eq_false_iff.1 hy) hk ?_
        have hup := hle y hy
        have hdown := le_abs_value_sub y x.negative ha
        rw [abs_value_sub rfl] at hup
        rw [heq, abs_value_sub rfl] at hdown
        exact mul_right_cancel₀ unit_pos.ne' (le_antisymm hdown hup)

end Binary64

/-! ### Decimals -/

namespace Decimal

/-- The absolute value. -/
def absValue (d : Decimal) : ℚ := d.digits * 10 ^ d.exponent

/-- The number that the decimal stands for. -/
def value (d : Decimal) : ℚ := Binary64.signed d.negative d.absValue

variable (d : Decimal)

theorem absValue_nonneg : 0 ≤ d.absValue := by
  unfold absValue
  positivity

theorem fraction_snd_pos : 0 < d.fraction.2 := by
  unfold fraction
  split_ifs
  · exact Nat.one_pos
  · exact Nat.pow_pos (by decide)

theorem absValue_eq_fraction : d.absValue = (d.fraction.1 : ℚ) / d.fraction.2 := by
  have hpower : ∀ n, powerOfTen n = 10 ^ n := fun _ => rfl
  unfold absValue fraction
  split_ifs with h
  · rw [hpower, Nat.cast_one, div_one]
    push_cast
    rw [← zpow_natCast, Int.toNat_of_nonneg h]
  · rw [hpower, div_eq_mul_inv]
    push_cast
    rw [← zpow_natCast, ← zpow_neg, Int.toNat_of_nonneg (by omega), neg_neg]

/-- A decimal lies between the power of ten with the exponent of its first digit and the next one. -/
theorem absValue_bounds (h : d.digits ≠ 0) :
    (10 : ℚ) ^ d.leadingExponent ≤ d.absValue ∧ d.absValue < 10 ^ (d.leadingExponent + 1) := by
  obtain ⟨length, hlength⟩ : ∃ n, n = (Nat.toDigits 10 d.digits).length := ⟨_, rfl⟩
  have hpos : 0 < length := hlength ▸ Nat.length_toDigits_pos
  have hhigh : (d.digits : ℚ) < 10 ^ (length : ℤ) := by
    rw [zpow_natCast]
    exact_mod_cast (Nat.length_toDigits_le_iff (by decide) hpos).1 hlength.ge
  have hlow : (10 : ℚ) ^ ((length : ℤ) - 1) ≤ d.digits := by
    obtain ⟨k, rfl⟩ := Nat.exists_eq_succ_of_ne_zero hpos.ne'
    have hk : ((k.succ : ℕ) : ℤ) - 1 = (k : ℕ) := by omega
    rw [hk, zpow_natCast]
    rcases Nat.eq_zero_or_pos k with rfl | hkpos
    · rw [pow_zero]
      exact_mod_cast Nat.pos_of_ne_zero h
    · have hlt := mt (Nat.length_toDigits_le_iff (b := 10) (n := d.digits) (by decide) hkpos).2
        (by omega)
      exact_mod_cast not_lt.1 hlt
  have htenPos : (0 : ℚ) < 10 ^ d.exponent := by positivity
  have hsplit : d.leadingExponent + 1 = length + d.exponent := by
    rw [leadingExponent, ← hlength]
    ring
  constructor
  · calc (10 : ℚ) ^ d.leadingExponent = 10 ^ ((length : ℤ) - 1) * 10 ^ d.exponent := by
          rw [← zpow_add₀ (by norm_num)]
          congr 1
          omega
      _ ≤ d.absValue := mul_le_mul_of_nonneg_right hlow htenPos.le
  · calc d.absValue < 10 ^ (length : ℤ) * 10 ^ d.exponent := mul_lt_mul_of_pos_right hhigh htenPos
      _ = 10 ^ (d.leadingExponent + 1) := by rw [← zpow_add₀ (by norm_num), hsplit]

/-- A decimal is rounded without its sign. Where its power of ten is not written out, it is beyond
the doubles or below half the smallest of them. -/
theorem exists_toBinary64_eq : ∃ m, NearestMagnitude (d.absValue / Binary64.unit) m ∧
    d.toBinary64 = Binary64.ofSign d.negative m := by
  refine ⟨_, ?_, rfl⟩
  split_ifs with hzero hlarge hsmall
  · rw [absValue, hzero, Nat.cast_zero, zero_mul, zero_div]
    exact nearestMagnitude_zero le_rfl (by norm_num)
  · have hinfinity : (unitsOf binary64.infinity : ℚ) * Binary64.unit = 2 ^ 1024 := by
      have hvalue := Binary64.absValue_of_isInfinite (x := .infinite false) (by decide)
      rwa [Binary64.absValue_eq_units] at hvalue
    have hpowers : 2 ^ 1024 ≤ 10 ^ 311 := by decide +kernel
    apply nearestMagnitude_infinity
    rw [le_div_iff₀ Binary64.unit_pos, hinfinity]
    calc (2 : ℚ) ^ 1024 ≤ 10 ^ (311 : ℤ) := by exact_mod_cast hpowers
      _ ≤ 10 ^ d.leadingExponent := zpow_le_zpow_right₀ (by norm_num) (by omega)
      _ ≤ d.absValue := (d.absValue_bounds hzero).1
  · have hpowers : 2 ^ 1075 < 10 ^ 330 := by decide +kernel
    apply nearestMagnitude_zero (div_nonneg d.absValue_nonneg Binary64.unit_pos.le)
    rw [div_lt_iff₀ Binary64.unit_pos]
    calc d.absValue < 10 ^ (d.leadingExponent + 1) := (d.absValue_bounds hzero).2
      _ ≤ 10 ^ (-330 : ℤ) := zpow_le_zpow_right₀ (by norm_num) (by omega)
      _ = (10 ^ 330)⁻¹ := by rw [zpow_neg, zpow_ofNat]
      _ < (2 ^ 1075)⁻¹ := inv_strictAnti₀ (by positivity) (by exact_mod_cast hpowers)
      _ = 1 / 2 * Binary64.unit := by
        rw [Binary64.unit, zpow_neg, zpow_ofNat, pow_succ' _ 1074, mul_inv, one_div]
  · rw [absValue_eq_fraction]
    exact nearestMagnitude_nearest _ d.fraction_snd_pos

/-- **A decimal is read as the nearest double** with its sign. -/
theorem toBinary64_eq_iff {x : Binary64} :
    d.toBinary64 = x ↔ x.negative = d.negative ∧ x.IsNearest d.value := by
  obtain ⟨m, hm, heq⟩ := d.exists_toBinary64_eq
  have hlt : m < 2 ^ 63 := hm.le_infinity.trans_lt (by decide)
  have hnearest : ∀ {y : Binary64}, y.negative = d.negative → (y.IsNearest d.value ↔
      NearestMagnitude (d.absValue / Binary64.unit) y.magnitude) := by
    intro y hy
    rw [value, ← hy]
    exact Binary64.isNearest_iff d.absValue_nonneg
  constructor
  · rintro rfl
    have hnegative : d.toBinary64.negative = d.negative := by rw [heq, Binary64.negative_ofSign hlt]
    refine ⟨hnegative, (hnearest hnegative).2 ?_⟩
    rwa [heq, Binary64.magnitude_ofSign hlt]
  · rintro ⟨hnegative, hx⟩
    rw [heq]
    apply Binary64.eq_of_magnitude_eq
    · rw [Binary64.negative_ofSign hlt, hnegative]
    · rw [Binary64.magnitude_ofSign hlt]
      exact hm.unique ((hnearest hnegative).1 hx)

end Decimal

end KeyedFilter
