import KeyedFilter.Proofs.Number.Truncation

/-!
# Comparison of numbers

Numbers of all three representations are compared by what they stand for. Two doubles are compared
by their words, a double and a whole number by the whole part of the double and then by its
fraction, and no whole number is rounded on the way.

* `unitsOf`: a double without its sign in units of `2 ^ -1074`; it grows strictly with the word.
* `Binary64.compare_orderKey`: two doubles.
* `Binary64.compareInt?_of_isNaN_eq_false`: a whole number and a double.
* `Number.compare?_is_exact`: any two numbers.
-/

namespace KeyedFilter

/-! ### Magnitudes -/

/-- The double whose word is `m`, in units of the smallest positive double. -/
def unitsOf (m : ℕ) : ℕ :=
  (if m / 2 ^ 52 = 0 then m % 2 ^ 52 else 2 ^ 52 + m % 2 ^ 52) * 2 ^ (max (m / 2 ^ 52) 1 - 1)

@[simp] theorem unitsOf_zero : unitsOf 0 = 0 := by simp [unitsOf]

/-- Within one exponent the fraction grows; behind its largest value the exponent does. -/
theorem unitsOf_lt_succ (m : ℕ) : unitsOf m < unitsOf (m + 1) := by
  have hfraction : m % 2 ^ 52 < 2 ^ 52 := Nat.mod_lt _ (by positivity)
  by_cases hlast : m % 2 ^ 52 + 1 < 2 ^ 52
  · have hdiv : (m + 1) / 2 ^ 52 = m / 2 ^ 52 := by omega
    have hmod : (m + 1) % 2 ^ 52 = m % 2 ^ 52 + 1 := by omega
    rw [unitsOf, unitsOf, hdiv, hmod]
    apply Nat.mul_lt_mul_of_pos_right _ (by positivity)
    split_ifs <;> omega
  · -- the fraction is full, so the exponent grows and the fraction starts again
    have hdiv : (m + 1) / 2 ^ 52 = m / 2 ^ 52 + 1 := by omega
    have hmod : (m + 1) % 2 ^ 52 = 0 := by omega
    have hfull : m % 2 ^ 52 = 2 ^ 52 - 1 := by omega
    rw [unitsOf, unitsOf, hdiv, hmod, hfull, if_neg (Nat.succ_ne_zero _)]
    by_cases hzero : m / 2 ^ 52 = 0
    · rw [if_pos hzero, hzero]
      norm_num
    · have hstep : max (m / 2 ^ 52 + 1) 1 - 1 = (max (m / 2 ^ 52) 1 - 1) + 1 := by omega
      rw [if_neg hzero, hstep]
      generalize max (m / 2 ^ 52) 1 - 1 = e
      have hpos : 0 < 2 ^ e := by positivity
      rw [pow_succ 2 e]
      omega

theorem unitsOf_strictMono : StrictMono unitsOf :=
  strictMono_nat_of_lt_succ unitsOf_lt_succ

/-- The units of a magnitude with a sign. -/
def signedUnitsOf (k : ℤ) : ℤ :=
  if k < 0 then -(unitsOf k.natAbs : ℤ) else unitsOf k.natAbs

theorem signedUnitsOf_lt {j k : ℤ} (hjk : j < k) : signedUnitsOf j < signedUnitsOf k := by
  have hzero : ∀ n : ℕ, 0 < n → 0 < unitsOf n := fun n hn => by
    simpa using unitsOf_strictMono hn
  simp only [signedUnitsOf]
  split_ifs with hj hk hk
  · have := unitsOf_strictMono (show k.natAbs < j.natAbs by omega)
    omega
  · have := hzero j.natAbs (by omega)
    omega
  · omega
  · have := unitsOf_strictMono (show j.natAbs < k.natAbs by omega)
    omega

namespace Binary64

/-! ### Two doubles -/

/-- The smallest positive double. -/
def unit : ℚ := 2 ^ (-1074 : ℤ)

theorem unit_pos : 0 < unit := by
  unfold unit; positivity

theorem absValue_eq_units (x : Binary64) : x.absValue = unitsOf x.magnitude * unit := by
  have hexponent : x.exponent = (max (x.magnitude / 2 ^ 52) 1 - 1 : ℕ) + (-1074 : ℤ) := by
    simp only [exponent, exponentField, powerOfTwo_eq]
    omega
  rw [absValue, unit, hexponent, zpow_add₀ (by norm_num), zpow_natCast, ← mul_assoc]
  congr 1
  rw [significand, exponentField, fractionField, powerOfTwo_eq, unitsOf]
  split_ifs <;> push_cast <;> rfl

theorem value_eq_units (x : Binary64) : x.value = signedUnitsOf x.orderKey * unit := by
  rw [value, absValue_eq_units, orderKey, signedUnitsOf]
  split_ifs with hneg hkey hkey
  · rw [show (-(x.magnitude : ℤ)).natAbs = x.magnitude by omega]
    push_cast
    ring
  · rw [show x.magnitude = 0 by omega]
    simp
  · omega
  · rw [show (x.magnitude : ℤ).natAbs = x.magnitude by omega, Int.cast_natCast]

/-- **Finite doubles stand in the order of their words**, the sign bit being read as a sign. -/
theorem compare_orderKey (x y : Binary64) :
    compare x.orderKey y.orderKey = compare x.value y.value := by
  have hmono : StrictMono fun k : ℤ => (signedUnitsOf k : ℚ) * unit :=
    fun j k hjk => mul_lt_mul_of_pos_right (by exact_mod_cast signedUnitsOf_lt hjk) unit_pos
  rw [value_eq_units, value_eq_units, ← cmp_eq_compare, ← cmp_eq_compare]
  exact (hmono.cmp_map_eq _ _).symm

/-- The keys of the infinities enclose those of the finite doubles. -/
theorem exactValue?_cases {x : Binary64} {a : ExtendedRat} (h : x.exactValue? = some a) :
    (a = ⊥ ∧ x.orderKey = -binary64.infinity) ∨ (a = ⊤ ∧ x.orderKey = binary64.infinity) ∨
      (a = ((x.value : WithTop ℚ) : ExtendedRat) ∧ -binary64.infinity < x.orderKey ∧
        x.orderKey < binary64.infinity) := by
  rw [exactValue?_eq] at h
  split_ifs at h with hnan hinf hneg
  · rw [isInfinite, beq_iff_eq] at hinf
    exact .inl ⟨(Option.some.inj h).symm, by rw [orderKey, if_pos hneg, hinf]⟩
  · rw [isInfinite, beq_iff_eq] at hinf
    exact .inr (.inl ⟨(Option.some.inj h).symm, by rw [orderKey, if_neg hneg, hinf]⟩)
  · refine .inr (.inr ⟨(Option.some.inj h).symm, ?_⟩)
    simp only [isNaN, isInfinite, decide_eq_true_eq, beq_iff_eq] at hnan hinf
    rw [orderKey]
    split_ifs <;> omega

theorem exact_eq_of_orderKey_eq {x y : Binary64} {a b : ExtendedRat} (hx : x.exactValue? = some a)
    (hy : y.exactValue? = some b) (h : x.orderKey = y.orderKey) : a = b := by
  have hinf : (0 : ℤ) < binary64.infinity := by decide
  rcases exactValue?_cases hx with ⟨rfl, hkx⟩ | ⟨rfl, hkx⟩ | ⟨rfl, hkx, hkx'⟩ <;>
    rcases exactValue?_cases hy with ⟨rfl, hky⟩ | ⟨rfl, hky⟩ | ⟨rfl, hky, hky'⟩ <;>
    first | rfl | omega | skip
  rw [value_eq_units, value_eq_units, h]

theorem exact_lt_of_orderKey_lt {x y : Binary64} {a b : ExtendedRat} (hx : x.exactValue? = some a)
    (hy : y.exactValue? = some b) (h : x.orderKey < y.orderKey) : a < b := by
  rcases exactValue?_cases hx with ⟨rfl, hkx⟩ | ⟨rfl, hkx⟩ | ⟨rfl, hkx, hkx'⟩ <;>
    rcases exactValue?_cases hy with ⟨rfl, hky⟩ | ⟨rfl, hky⟩ | ⟨rfl, hky, hky'⟩ <;>
    first | omega | skip
  · exact bot_lt_top
  · exact WithBot.bot_lt_coe _
  · exact WithBot.coe_lt_coe.2 (WithTop.coe_lt_top _)
  · rw [WithBot.coe_lt_coe, WithTop.coe_lt_coe, ← compare_lt_iff_lt, ← compare_orderKey,
      compare_lt_iff_lt]
    exact h

theorem compare?_eq_exact (x y : Binary64) :
    x.compare? y = x.exactValue?.bind fun a => y.exactValue?.map (compare a) := by
  rw [compare?, x.isNaN_eq_isNone, y.isNaN_eq_isNone]
  cases hx : x.exactValue? with
  | none => rfl
  | some a =>
    cases hy : y.exactValue? with
    | none => rfl
    | some b =>
      simp only [Option.isNone_some, Bool.or_self, Bool.false_eq_true, if_false, Option.bind_some,
        Option.map_some, Option.some.injEq]
      rcases lt_trichotomy x.orderKey y.orderKey with h | h | h
      · rw [compare_lt_iff_lt.2 h, compare_lt_iff_lt.2 (exact_lt_of_orderKey_lt hx hy h)]
      · rw [compare_eq_iff_eq.2 h, compare_eq_iff_eq.2 (exact_eq_of_orderKey_eq hx hy h)]
      · rw [compare_gt_iff_gt.2 h, compare_gt_iff_gt.2 (exact_lt_of_orderKey_lt hy hx h)]

/-- The order of exact values that are rational. -/
theorem compare_coe (a b : ℚ) :
    compare ((a : WithTop ℚ) : ExtendedRat) ((b : WithTop ℚ) : ExtendedRat) = compare a b := by
  rw [← cmp_eq_compare, ← cmp_eq_compare]
  exact (WithBot.coe_strictMono.comp WithTop.coe_strictMono).cmp_map_eq a b

/-! ### A whole number and a double -/

/-- A whole number other than `w` lies on the same side of `w` and of all that is near `w`. -/
theorem compare_of_near {w : ℤ} {v : ℚ} (hlow : (w : ℚ) - 1 < v) (hhigh : v < w + 1) (n : ℤ) :
    compare (n : ℚ) v = (compare n w).then (compare (w : ℚ) v) := by
  rcases lt_trichotomy n w with h | rfl | h
  · have hn : (n : ℚ) ≤ w - 1 := by exact_mod_cast Int.le_sub_one_of_lt h
    rw [compare_lt_iff_lt.2 h, Ordering.lt_then, compare_lt_iff_lt]
    linarith
  · rw [compare_eq_iff_eq.2 rfl, Ordering.eq_then]
  · have hn : (w : ℚ) + 1 ≤ n := by exact_mod_cast h
    rw [compare_gt_iff_gt.2 h, Ordering.gt_then, compare_gt_iff_gt]
    linarith

/-- **A whole number is compared with the exact value of a double.** An infinity counts as `2 ^ 1024`
here, which is beyond every whole number in question. -/
theorem compareInt?_of_isNaN_eq_false {x : Binary64} (h : x.isNaN = false) {n : ℤ}
    (hn : InsideInt128 n) : x.compareInt? n = some (compare (n : ℚ) x.value) := by
  have htruncate := isNaN_truncate h
  obtain ⟨hlow, hhigh⟩ := x.value_near_whole
  -- what decides a tie is the double against what cutting off its fraction left
  have htie : x.truncate.compare? x = some (compare (x.whole : ℚ) x.value) := by
    rw [compare?, htruncate, h, compare_orderKey, value_truncate]
    rfl
  have hnear := compare_of_near hlow hhigh n
  rw [compareInt?, h, htie, compare_toInt128 hn htruncate, whole_truncate, hnear]
  cases compare n x.whole <;> rfl

theorem le_absValue_of_isInfinite {x : Binary64} (h : x.isInfinite = true) :
    2 ^ 127 ≤ x.absValue := by
  obtain ⟨hexponent, hfraction⟩ := x.isInfinite_iff.1 h
  rw [absValue_eq, hexponent, hfraction, if_neg (by decide), Nat.cast_zero, zero_div, add_zero,
    mul_one, ← zpow_natCast]
  exact zpow_le_zpow_right₀ (by norm_num) (by norm_num)

theorem compareInt?_eq_exact {n : ℤ} (hn : InsideInt128 n) (x : Binary64) :
    x.compareInt? n = x.exactValue?.map (compare (((n : ℚ) : WithTop ℚ) : ExtendedRat)) := by
  have hlow : (-2 ^ 127 : ℚ) < n := by exact_mod_cast hn.1
  have hhigh : (n : ℚ) < 2 ^ 127 := by exact_mod_cast hn.2.trans (by norm_num)
  rw [exactValue?_eq]
  split_ifs with hnan hinf hneg
  · rw [compareInt?, if_pos hnan, Option.map_none]
  · have hbelow : x.value < n := by
      have := le_absValue_of_isInfinite hinf
      rw [value, if_pos hneg]
      linarith
    rw [compareInt?_of_isNaN_eq_false (by simpa using hnan) hn, compare_gt_iff_gt.2 hbelow,
      Option.map_some, compare_gt_iff_gt.2 (WithBot.bot_lt_coe _)]
  · have habove : n < x.value := by
      have := le_absValue_of_isInfinite hinf
      rw [value, if_neg hneg]
      linarith
    rw [compareInt?_of_isNaN_eq_false (by simpa using hnan) hn, compare_lt_iff_lt.2 habove,
      Option.map_some, compare_lt_iff_lt.2 (WithBot.coe_lt_coe.2 (WithTop.coe_lt_top _))]
  · rw [compareInt?_of_isNaN_eq_false (by simpa using hnan) hn, Option.map_some, compare_coe]

/-- Every signed 64-bit word is inside the signed 128-bit ones. -/
theorem insideInt128_toInt (n : Int64) : InsideInt128 n.toInt := by
  have := n.le_toInt
  have := n.toInt_lt
  constructor <;> omega

/-- So is every unsigned one. -/
theorem insideInt128_toNat (n : UInt64) : InsideInt128 n.toNat := by
  have := n.toNat_lt
  constructor <;> omega

end Binary64

namespace Number

open Binary64

/-! ### All numbers -/

theorem compareInt?_eq_exact {n : ℤ} (hn : InsideInt128 n) (b : Number) :
    compareInt? n b = b.exactValue?.map (compare (((n : ℚ) : WithTop ℚ) : ExtendedRat)) := by
  cases b with
  | signed m =>
    rw [compareInt?, exactValue?, Option.map_some, compare_coe, ← cmp_eq_compare, ← cmp_eq_compare,
      Int.cast_strictMono.cmp_map_eq]
  | unsigned m =>
    rw [compareInt?, exactValue?, Option.map_some, compare_coe, ← cmp_eq_compare, ← cmp_eq_compare,
      ← Int.cast_natCast (R := ℚ), Int.cast_strictMono.cmp_map_eq]
  | double x => exact Binary64.compareInt?_eq_exact hn x

/-- **Numbers are compared by what they stand for**, and not at all when one is a NaN. -/
theorem compare?_eq_exact (a b : Number) :
    a.compare? b = a.exactValue?.bind fun x => b.exactValue?.map (compare x) := by
  have hswap : ∀ (o : Option ExtendedRat) (q : ExtendedRat),
      (o.map (compare q)).map Ordering.swap = o.bind fun x => some (compare x q) := by
    intro o q
    cases o with
    | none => rfl
    | some x =>
      rw [Option.map_some, Option.map_some, Option.bind_some, ← cmp_eq_compare, ← cmp_eq_compare,
        cmp_swap]
  cases a with
  | signed n => exact compareInt?_eq_exact (insideInt128_toInt n) b
  | unsigned n =>
    have h := compareInt?_eq_exact (insideInt128_toNat n) b
    rw [Int.cast_natCast] at h
    exact h
  | double x =>
    cases b with
    | signed m =>
      rw [compare?, Binary64.compareInt?_eq_exact (insideInt128_toInt m), hswap]
      rfl
    | unsigned m =>
      rw [compare?, Binary64.compareInt?_eq_exact (insideInt128_toNat m), hswap, Int.cast_natCast]
      rfl
    | double y => exact x.compare?_eq_exact y

theorem compare?_congr {a a' b b' : Number} (ha : a.exactValue? = a'.exactValue?)
    (hb : b.exactValue? = b'.exactValue?) : a.compare? b = a'.compare? b' := by
  rw [compare?_eq_exact, compare?_eq_exact, ha, hb]

theorem isNaN_iff_exactValue? (a : Number) : a.isNaN = true ↔ a.exactValue? = none := by
  rw [isNaN_eq_isNone, Option.isNone_iff_eq_none]

theorem compare?_eq_none_iff {a b : Number} :
    a.compare? b = none ↔ a.isNaN = true ∨ b.isNaN = true := by
  rw [isNaN_iff_exactValue?, isNaN_iff_exactValue?, compare?_eq_exact]
  cases a.exactValue? <;> simp

/-- **The order of two numbers is the order of what they stand for.** There is none exactly when one
of them is a NaN. -/
theorem compare?_is_exact (a b : Number) :
    (a.compare? b = none ↔ a.isNaN = true ∨ b.isNaN = true) ∧
    (∀ c : Number, c.isNaN = true ↔ c.exactValue? = none) ∧
    ∀ x y, a.exactValue? = some x → b.exactValue? = some y → a.compare? b = some (compare x y) := by
  refine ⟨compare?_eq_none_iff, isNaN_iff_exactValue?, fun x y hx hy => ?_⟩
  rw [compare?_eq_exact, hx, hy]
  rfl

/-- A whole number that no double holds, beside the double next to it; a fraction below zero, beside
the whole number that it is cut down to; and the largest word, beside `2 ^ 127`, which no signed
128-bit word holds. -/
theorem compare?_is_exact_near_words :
    let next : Number := .double ⟨0x4340000000000000⟩
    let fraction : Number := .double ⟨0xc004000000000000⟩
    let beyond : Number := .double ⟨0x47e0000000000000⟩
    (next.exactValue? = some (((2 ^ 53 : ℚ) : WithTop ℚ) : ExtendedRat) ∧
      (Number.signed 9007199254740993).compare? next = some .gt) ∧
    (fraction.exactValue? = some (((-5 / 2 : ℚ) : WithTop ℚ) : ExtendedRat) ∧
      (Number.signed (-2)).compare? fraction = some .gt) ∧
    (beyond.exactValue? = some (((2 ^ 127 : ℚ) : WithTop ℚ) : ExtendedRat) ∧
      (Number.unsigned 18446744073709551615).compare? beyond = some .lt) := by
  intro next fraction beyond
  have hnext : next.exactValue? = some (((2 ^ 53 : ℚ) : WithTop ℚ) : ExtendedRat) := by
    simp only [next, exactValue?, Binary64.exactValue?, UInt64.reduceToNat]
    norm_num
  have hfraction : fraction.exactValue? = some (((-5 / 2 : ℚ) : WithTop ℚ) : ExtendedRat) := by
    simp only [fraction, exactValue?, Binary64.exactValue?, UInt64.reduceToNat]
    norm_num
  have hbeyond : beyond.exactValue? = some (((2 ^ 127 : ℚ) : WithTop ℚ) : ExtendedRat) := by
    simp only [beyond, exactValue?, Binary64.exactValue?, UInt64.reduceToNat]
    norm_num
  refine ⟨⟨hnext, ?_⟩, ⟨hfraction, ?_⟩, ⟨hbeyond, ?_⟩⟩
  · rw [(compare?_is_exact _ next).2.2 _ _ rfl hnext, compare_coe, compare_gt_iff_gt.2]
    rw [show (9007199254740993 : Int64).toInt = 9007199254740993 from rfl]
    norm_num
  · rw [(compare?_is_exact _ fraction).2.2 _ _ rfl hfraction, compare_coe, compare_gt_iff_gt.2]
    rw [show (-2 : Int64).toInt = -2 from rfl]
    norm_num
  · rw [(compare?_is_exact _ beyond).2.2 _ _ rfl hbeyond, compare_coe, compare_lt_iff_lt.2]
    rw [show (18446744073709551615 : UInt64).toNat = 18446744073709551615 from rfl]
    norm_num

end Number

end KeyedFilter
