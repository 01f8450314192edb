import KeyedFilter.Proofs.Predicate.Outcome
import KeyedFilter.Proofs.SortOrder
import KeyedFilter.Scalar.Conversion

/-!
# Representations of numbers

A number may come as a signed word, as an unsigned word or as a double, whichever its source makes
of it, and among the doubles there are two zeros and many NaNs. Neither filtering nor sorting sees a
difference: scalars that stand for the same tie with one another and stand alike to all others, and
every relation has the same outcome for them, or fails with the same error.

* `Scalar.Alike`: scalars that stand for the same.
* `Scalar.compare_eq_iff_alike`: they are those that tie.
* `Predicate.representation_irrelevant`: one may stand in for the other.
-/

namespace KeyedFilter

open Std (TransCmp)

namespace Scalar

/-- Numbers stand for the same if they have one exact value or are both NaN, and other scalars only
if they are equal. -/
def Alike : Scalar → Scalar → Prop
  | .number a, .number b => a.exactValue? = b.exactValue?
  | a, b => a = b

variable {a b value value' operand operand' : Scalar}

/-- Beyond numbers, nothing is exchanged. -/
theorem Alike.cases (h : a.Alike b) :
    a = b ∨ ∃ m n, a = .number m ∧ b = .number n ∧ m.exactValue? = n.exactValue? := by
  unfold Alike at h
  split at h
  · exact .inr ⟨_, _, rfl, rfl, h⟩
  · exact .inl h

/-! ### Sorting -/

/-- **Scalars that stand for the same are those that the sort order does not tell apart.** -/
theorem compare_eq_iff_alike : Scalar.compare a b = .eq ↔ a.Alike b := by
  by_cases htype : a.type = b.type
  · cases a <;> cases b <;> first | contradiction | skip
    all_goals simp only [Scalar.compare, Alike, Std.compare_eq_iff_eq, Number.compareTotal_eq_iff,
      Timestamp.compare_eq_iff, bool.injEq, string.injEq, timestamp.injEq]
  · rw [compare_of_type_ne htype]
    refine iff_of_false (fun heq => htype (ScalarType.eq_of_rank_eq ?_)) fun halike => htype ?_
    · exact Std.compare_eq_iff_eq.1 heq
    · obtain rfl | ⟨m, n, rfl, rfl, -⟩ := halike.cases <;> rfl

theorem compare_congr (hvalue : value.Alike value') (hoperand : operand.Alike operand') :
    Scalar.compare value operand = Scalar.compare value' operand' :=
  (TransCmp.congr_left (compare_eq_iff_alike.2 hvalue)).trans
    (TransCmp.congr_right (compare_eq_iff_alike.2 hoperand))

/-! ### What else is read off a scalar -/

theorem Alike.type_eq (h : a.Alike b) : a.type = b.type := by
  obtain rfl | ⟨m, n, rfl, rfl, -⟩ := h.cases <;> rfl

theorem Alike.isNull_eq (h : a.Alike b) : a.isNull = b.isNull := by
  obtain rfl | ⟨m, n, rfl, rfl, -⟩ := h.cases <;> rfl

theorem Alike.text?_eq (h : a.Alike b) : a.text? = b.text? := by
  obtain rfl | ⟨m, n, rfl, rfl, -⟩ := h.cases <;> rfl

theorem Alike.holdsBlank_eq (h : a.Alike b) : Relation.holdsBlank a = Relation.holdsBlank b := by
  obtain rfl | ⟨m, n, rfl, rfl, -⟩ := h.cases <;> rfl

/-- A text is read as the same number whatever it is compared with. -/
theorem compareOperand?_congr (hvalue : value.Alike value') (hoperand : operand.Alike operand') :
    value.compareOperand? operand = value'.compareOperand? operand' := by
  obtain rfl | ⟨m, m', rfl, rfl, hm⟩ := hvalue.cases <;>
    obtain rfl | ⟨n, n', rfl, rfl, hn⟩ := hoperand.cases
  · rfl
  · cases value with
    | number a => exact congrArg some (Number.compare?_congr rfl hn)
    | _ => rfl
  · have hcompare : m.compare? = m'.compare? := funext fun b => Number.compare?_congr hm rfl
    cases operand with
    | number b => exact congrArg some (congrFun hcompare b)
    | string s => rw [compareOperand?, compareOperand?, hcompare]
    | _ => rfl
  · exact congrArg some (Number.compare?_congr hm hn)

/-- A number is equal to what it is compared with as equal, and no other value is equal to a
number. -/
theorem equalsOperand_congr (hvalue : value.Alike value') (hoperand : operand.Alike operand') :
    value.equalsOperand operand = value'.equalsOperand operand' := by
  have hcompare := compareOperand?_congr hvalue hoperand
  obtain rfl | ⟨m, m', rfl, rfl, -⟩ := hvalue.cases
  · cases value with
    | number a => rw [equalsOperand, equalsOperand, hcompare]
    | _ => obtain rfl | ⟨n, n', rfl, rfl, -⟩ := hoperand.cases <;> rfl
  · rw [equalsOperand, equalsOperand, hcompare]

end Scalar

/-! ### Filtering -/

variable {value value' operand operand' : Scalar}

namespace Relation

variable (relation : Relation) (name : String)

theorem checkOperandType_congr (hoperand : operand.Alike operand') :
    relation.checkOperandType name operand = relation.checkOperandType name operand' := by
  rw [checkOperandType, checkOperandType, hoperand.type_eq]

/-- **A relation has one outcome for all scalars that stand for the same.** -/
theorem evaluate_congr (hvalue : value.Alike value') (hoperand : operand.Alike operand') :
    relation.evaluate name value operand = relation.evaluate name value' operand' := by
  have hnull : operand = .null ↔ operand' = .null := by
    rw [← Scalar.isNull_iff, hoperand.isNull_eq, Scalar.isNull_iff]
  have hpresent : relation.evaluatePresent name value operand =
      relation.evaluatePresent name value' operand' := by
    rw [evaluatePresent, evaluatePresent, Scalar.equalsOperand_congr hvalue hoperand,
      Scalar.compareOperand?_congr hvalue hoperand, hvalue.text?_eq, hoperand.text?_eq,
      hvalue.type_eq, hoperand.type_eq]
  simp only [evaluate, hnull, hpresent, hvalue.isNull_eq, hvalue.holdsBlank_eq]

end Relation

namespace Predicate

theorem evaluate_congr (p : Predicate) (name : String) (hvalue : value.Alike value')
    (hoperand : operand.Alike operand') :
    p.evaluate name value operand = p.evaluate name value' operand' := by
  rw [Predicate.evaluate, Predicate.evaluate, p.relation.evaluate_congr name hvalue hoperand]

/-- **What a number stands for decides, and not how it is represented.** In the place of a field
value and of an operand there may stand others that stand for the same: a word of the other kind or
a double, the other zero, another NaN. Then an operand is right for the same relations and is
refused with the same error, every relation and every predicate has the outcome that it had or fails
as it did, and the two are sorted as before. Nothing else may be exchanged, as sorting tells all
other scalars apart. -/
theorem representation_irrelevant (hvalue : value.Alike value')
    (hoperand : operand.Alike operand') :
    (∀ (relation : Relation) (name : String),
      relation.checkOperandType name operand = relation.checkOperandType name operand' ∧
      relation.evaluate name value operand = relation.evaluate name value' operand') ∧
    (∀ (p : Predicate) (name : String),
      p.evaluate name value operand = p.evaluate name value' operand') ∧
    Scalar.compare value operand = Scalar.compare value' operand' ∧
    ∀ a b : Scalar, Scalar.compare a b = .eq ↔ a.Alike b := by
  refine ⟨fun relation name => ⟨?_, ?_⟩, fun p name => ?_, ?_, fun a b => ?_⟩
  · exact relation.checkOperandType_congr name hoperand
  · exact relation.evaluate_congr name hvalue hoperand
  · exact p.evaluate_congr name hvalue hoperand
  · exact Scalar.compare_congr hvalue hoperand
  · exact Scalar.compare_eq_iff_alike

/-- A negative zero beside the word zero, and two NaNs of different signs. -/
theorem representation_irrelevant_zeros :
    let negativeZero : Scalar := .number (.double ⟨0x8000000000000000⟩)
    let zero : Scalar := .number (.unsigned 0)
    let nan : Scalar := .number (.double ⟨0x7ff8000000000000⟩)
    let negativeNaN : Scalar := .number (.double ⟨0xfff0000000000001⟩)
    (negativeZero.Alike zero ∧ negativeZero ≠ zero) ∧ (nan.Alike negativeNaN ∧ nan ≠ negativeNaN) ∧
      Relation.less.evaluate "price" negativeZero nan = .ok none ∧
      Relation.less.evaluate "price" zero negativeNaN = .ok none ∧
      Scalar.compare negativeZero nan = .lt ∧ Scalar.compare zero negativeNaN = .lt := by
  intro negativeZero zero nan negativeNaN
  have hzero : negativeZero.Alike zero := Scalar.compare_eq_iff_alike.1 (by decide +kernel)
  have hnan : nan.Alike negativeNaN := Scalar.compare_eq_iff_alike.1 (by decide +kernel)
  have hunknown : Relation.less.evaluate "price" negativeZero nan = .ok none := by decide +kernel
  have hbefore : Scalar.compare negativeZero nan = .lt := by decide +kernel
  obtain ⟨hrelation, -, hcompare, -⟩ := representation_irrelevant hzero hnan
  exact ⟨⟨hzero, by decide⟩, ⟨hnan, by decide⟩, hunknown,
    ((hrelation .less "price").2).symm.trans hunknown, hbefore, hcompare.symm.trans hbefore⟩

end Predicate

end KeyedFilter
