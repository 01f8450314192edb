import Mathlib.Algebra.Group.Nat.Defs
import Mathlib.Algebra.Ring.Int.Defs
import Mathlib.Tactic.SplitIfs
import KeyedFilter.Number.Basic

/-!
# Words

A word holds the whole numbers from `-2 ^ 63` to below `2 ^ 64`: a signed word those below `2 ^ 63`,
an unsigned one the others.

* `Number.ofInt?_cases`: the whole numbers that a word holds.
* `Number.ofInt?_eq_signed_iff`, `Number.ofInt?_eq_unsigned_iff`: which word holds a whole number.
* `Number.normalize_of_toInt_eq`, `Number.normalize_of_le`: the words that documents tell apart.
-/

namespace KeyedFilter.Number

variable {m : ℤ}

/-- The words hold the whole numbers from `-2 ^ 63` to below `2 ^ 64`. -/
theorem ofInt?_cases (m : ℤ) :
    (∃ a, ofInt? m = some a ∧ a.toInt? = some m ∧ -2 ^ 63 ≤ m) ∨
      (ofInt? m = none ∧ (m < -2 ^ 63 ∨ 2 ^ 64 ≤ m)) := by
  have hmin : minSigned = -2 ^ 63 := rfl
  have hmax : maxSigned = 2 ^ 63 - 1 := rfl
  have hmaxUnsigned : maxUnsigned = 2 ^ 64 - 1 := rfl
  rw [ofInt?]
  split_ifs with hsigned hunsigned
  · have hword : (Int64.ofInt m).toInt = m := Int64.toInt_ofInt_of_le (by omega) (by omega)
    exact .inl ⟨_, rfl, by rw [toInt?, hword], by omega⟩
  · have hword : (UInt64.ofNat m.toNat).toNat = m.toNat := UInt64.toNat_ofNat_of_lt' (by
      have : UInt64.size = 2 ^ 64 := rfl
      omega)
    exact .inl ⟨_, rfl, by rw [toInt?, hword, Int.toNat_of_nonneg hunsigned.1], by omega⟩
  · exact .inr ⟨rfl, by omega⟩

theorem ofInt?_eq_signed_iff {n : Int64} : ofInt? m = some (.signed n) ↔ m = n.toInt := by
  have hmin : minSigned = -2 ^ 63 := rfl
  have hmax : maxSigned = 2 ^ 63 - 1 := rfl
  have hlow := n.le_toInt
  have hhigh := n.toInt_lt
  unfold ofInt?
  constructor
  · intro h
    split_ifs at h with hsigned
    · obtain rfl := signed.inj (Option.some.inj h)
      exact (Int64.toInt_ofInt_of_le (by omega) (by omega)).symm
    · cases h
  · rintro rfl
    rw [if_pos (by omega), Int64.ofInt_toInt]

theorem ofInt?_eq_unsigned_iff {n : UInt64} :
    ofInt? m = some (.unsigned n) ↔ 2 ^ 63 ≤ n.toNat ∧ m = n.toNat := by
  have hmax : maxSigned = 2 ^ 63 - 1 := rfl
  have hmaxUnsigned : maxUnsigned = 2 ^ 64 - 1 := rfl
  have hmin : minSigned = -2 ^ 63 := rfl
  have hlt := n.toNat_lt
  unfold ofInt?
  constructor
  · intro h
    split_ifs at h with hsigned hunsigned
    · cases h
    · obtain rfl := unsigned.inj (Option.some.inj h)
      have hsize : UInt64.size = 2 ^ 64 := rfl
      rw [UInt64.toNat_ofNat_of_lt' (by omega)]
      omega
  · rintro ⟨hlarge, rfl⟩
    rw [if_neg (by omega), if_pos (by omega), Int.toNat_natCast, UInt64.ofNat_toNat]

/-- Documents do not tell an unsigned word from a signed one that holds the same number. -/
theorem normalize_of_toInt_eq {n : UInt64} {k : Int64} (h : k.toInt = n.toNat) :
    (unsigned n).normalize = signed k := by
  rw [normalize, ofInt?_eq_signed_iff.2 h.symm, Option.getD_some]

theorem normalize_of_le {n : UInt64} (h : 2 ^ 63 ≤ n.toNat) :
    (unsigned n).normalize = unsigned n := by
  rw [normalize, ofInt?_eq_unsigned_iff.2 ⟨h, rfl⟩, Option.getD_some]

theorem exists_toInt_eq {n : UInt64} (h : n.toNat < 2 ^ 63) : ∃ k : Int64, k.toInt = n.toNat :=
  ⟨Int64.ofInt n.toNat, Int64.toInt_ofInt_of_le (by omega) (by omega)⟩

end KeyedFilter.Number
