import Mathlib.Tactic.SplitIfs
import KeyedFilter.Predicate.Evaluation
import KeyedFilter.Proofs.Number.Comparison

/-!
# Outcomes of relations

A relation between a field value and an operand is true, false or unknown, or it is for other types
and fails. It is unknown in two cases only: nothing is known of a null, and a NaN has no order.

* `Relation.Unknown`: the two cases.
* `Relation.evaluate_eq_unknown_iff`: they are what evaluation calls unknown.
* `Predicate.evaluate_eq_error_iff`, `Predicate.evaluate_eq_true_iff`: a negated predicate fails as
  the relation does, and is definitely true where the relation is definitely false.
-/

namespace KeyedFilter

/-- The number that a scalar denotes; a text may be one. -/
def Scalar.number? : Scalar → Option Number
  | .number n => some n
  | .string s => Number.read? s
  | _ => none

/-- Nothing is known of a null, save whether it is blank or null, and a number has no order with
another one if either is a NaN. -/
def Relation.Unknown (relation : Relation) (value operand : Scalar) : Prop :=
  (value = .null ∧ relation ≠ .blank ∧ ¬ (relation = .equals ∧ operand = .null)) ∨
    (relation.isOrder = true ∧ ∃ a b, value = .number a ∧ operand.number? = some b ∧
      (a.isNaN = true ∨ b.isNaN = true))

theorem Scalar.isNull_iff {s : Scalar} : s.isNull = true ↔ s = .null := by
  cases s <;> simp [isNull]

theorem Scalar.compareOperand?_eq_unknown_iff {value operand : Scalar} :
    value.compareOperand? operand = some none ↔
      ∃ a b, value = .number a ∧ operand.number? = some b ∧ (a.isNaN = true ∨ b.isNaN = true) := by
  cases value <;> cases operand <;>
    simp [compareOperand?, number?, Number.compare?_eq_none_iff]

namespace Relation

variable {relation : Relation} {name : String} {value operand : Scalar}

/-- A relation that is neither of the others compares by order. -/
theorem isOrder_eq_true (hblank : relation ≠ .blank) (hequals : relation ≠ .equals)
    (htextual : relation.isTextual = false) : relation.isOrder = true := by
  cases relation <;> first | rfl | contradiction

theorem isOrder_cases (h : relation.isOrder = true) :
    relation ≠ .blank ∧ relation ≠ .equals ∧ relation.isTextual = false := by
  cases relation <;> first | contradiction | exact ⟨nofun, nofun, rfl⟩

theorem evaluatePresent_eq_unknown_iff (hblank : relation ≠ .blank) :
    relation.evaluatePresent name value operand = .ok none ↔
      relation.isOrder = true ∧ value.compareOperand? operand = some none := by
  unfold evaluatePresent
  split_ifs with hequals htextual
  · refine iff_of_false (by simp) fun h => (isOrder_cases h.1).2.1 hequals
  · refine iff_of_false (by split <;> simp) fun h => ?_
    rw [(isOrder_cases h.1).2.2] at htextual
    cases htextual
  · have horder := isOrder_eq_true hblank hequals (by simpa using htextual)
    cases value.compareOperand? operand <;> simp [horder]

/-- **The outcome is unknown in the two cases, and in no other.** -/
theorem evaluate_eq_unknown_iff :
    relation.evaluate name value operand = .ok none ↔ relation.Unknown value operand := by
  unfold evaluate Unknown
  split_ifs with hblank hnull hvalue
  · refine iff_of_false (by simp) ?_
    rintro (⟨-, hne, -⟩ | ⟨horder, -⟩)
    · exact hne hblank
    · exact (isOrder_cases horder).1 hblank
  · refine iff_of_false (by simp) ?_
    rintro (⟨-, -, hne⟩ | ⟨horder, -⟩)
    · exact hne hnull
    · exact (isOrder_cases horder).2.1 hnull.1
  · exact iff_of_true rfl (.inl ⟨Scalar.isNull_iff.1 hvalue, hblank, hnull⟩)
  · rw [evaluatePresent_eq_unknown_iff hblank, Scalar.compareOperand?_eq_unknown_iff]
    refine ⟨.inr, ?_⟩
    rintro (⟨rfl, -⟩ | h)
    · exact absurd rfl hvalue
    · exact h

/-- A relation of order compares any value that is there. -/
theorem evaluate_of_isOrder (h : relation.isOrder = true) (hvalue : value ≠ .null) :
    relation.evaluate name value operand =
      match value.compareOperand? operand with
      | some order => .ok (order.map relation.admits)
      | none => .error (.typeMismatch name relation [value.type] operand.type) := by
  obtain ⟨hblank, hequals, htextual⟩ := isOrder_cases h
  rw [evaluate, if_neg hblank, if_neg fun hnull => hequals hnull.1,
    if_neg (mt Scalar.isNull_iff.1 hvalue), evaluatePresent, if_neg hequals, htextual]
  rfl

theorem evaluate_equals (hvalue : value ≠ .null) (hoperand : operand ≠ .null) :
    equals.evaluate name value operand = .ok (some (value.equalsOperand operand)) := by
  rw [evaluate, if_neg nofun, if_neg fun hnull => hoperand hnull.2,
    if_neg (mt Scalar.isNull_iff.1 hvalue), evaluatePresent, if_pos rfl]

/-- Of a null, only blankness and being null are known. -/
theorem evaluate_null (hblank : relation ≠ .blank)
    (hequals : ¬ (relation = .equals ∧ operand = .null)) :
    relation.evaluate name .null operand = .ok none := by
  rw [evaluate, if_neg hblank, if_neg hequals]
  rfl

/-- Blankness and equality with null are known of every value. -/
theorem evaluate_known (h : relation = .blank ∨ relation = .equals ∧ operand = .null) :
    ∃ holds, relation.evaluate name value operand = .ok (some holds) := by
  unfold evaluate
  split_ifs with hblank hnull hvalue
  · exact ⟨_, rfl⟩
  · exact ⟨_, rfl⟩
  · exact absurd h (not_or.2 ⟨hblank, hnull⟩)
  · exact absurd h (not_or.2 ⟨hblank, hnull⟩)

end Relation

namespace Predicate

variable {relation : Relation} {negated : Bool} {name : String} {value operand : Scalar}

/-- Negation does not matter for what cannot be evaluated. -/
theorem evaluate_eq_error_iff {e : FilterError} :
    Predicate.evaluate ⟨relation, negated⟩ name value operand = .error e ↔
      relation.evaluate name value operand = .error e := by
  unfold Predicate.evaluate
  cases relation.evaluate name value operand <;> simp [Except.map]

/-- A negated predicate is definitely true where the relation is definitely false. -/
theorem evaluate_eq_true_iff :
    Predicate.evaluate ⟨relation, negated⟩ name value operand = .ok true ↔
      relation.evaluate name value operand = .ok (some !negated) := by
  unfold Predicate.evaluate
  rcases relation.evaluate name value operand with e | _ | holds
  · simp [Except.map]
  · simp [Except.map]
  · cases holds <;> cases negated <;> simp [Except.map]

end Predicate

end KeyedFilter
