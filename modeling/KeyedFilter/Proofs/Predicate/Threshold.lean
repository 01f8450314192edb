import KeyedFilter.Proofs.Predicate.Outcome
import KeyedFilter.Proofs.SortOrder

/-!
# Thresholds

A relation of order sets a threshold: it compares a field value with what the operand counts as
beside fields of that type, where a text may be a number. That is the comparison which sorts, save
that nothing is known of a NaN. Equality is the middle outcome of the same comparison, so the
predicates of order and equality divide the known values among them.

* `Scalar.Known`: neither null nor a NaN.
* `Scalar.threshold?`: what an operand counts as.
* `Scalar.compareOperand?_eq_threshold`: an operand is compared as its threshold is sorted.
* `Predicate.order_trichotomy`: how the predicates of order and equality hang together.
-/

namespace KeyedFilter

/-! ### Numbers -/

namespace Number

theorem isNaN_of_readWord? {text : List Char} {n : Number} (h : readWord? text = some n) :
    n.isNaN = false := by
  have hwhole : ∀ m a, ofInt? m = some a → a.isNaN = false := by
    intro m a ha
    rw [ofInt?] at ha
    split_ifs at ha <;> cases ha <;> rfl
  obtain ⟨m, -, hm⟩ := Option.bind_eq_some_iff.1 h
  split at hm
  · split_ifs at hm
    cases hm
    rfl
  · exact hwhole m n hm

/-- No text denotes a NaN. -/
theorem isNaN_of_read? {text : String} {n : Number} (h : read? text = some n) :
    n.isNaN = false := by
  rw [read?] at h
  cases hword : readWord? (Text.trim text.toList) with
  | some m =>
    rw [hword] at h
    cases h
    exact isNaN_of_readWord? hword
  | none =>
    rw [hword] at h
    obtain ⟨x, hx, rfl⟩ := Option.map_eq_some_iff.1 h
    have hnumber : (!x.isNaN) = true := (Option.filter_eq_some_iff.1 hx).2
    rwa [Bool.not_eq_true'] at hnumber

/-- Numbers are compared as they are sorted, unless one is a NaN. -/
theorem compare?_eq_compareTotal (a b : Number) :
    a.compare? b = if a.isNaN || b.isNaN then none else some (a.compareTotal b) := by
  cases h : a.compare? b with
  | none => rw [if_pos (Bool.or_eq_true_iff.2 (compare?_eq_none_iff.1 h))]
  | some order =>
    have hnumbers : ¬ (a.isNaN || b.isNaN) = true := by
      rw [Bool.or_eq_true_iff, ← compare?_eq_none_iff, h]
      nofun
    rw [if_neg hnumbers, compareTotal, h, Option.getD_some]

end Number

/-! ### What an operand counts as -/

namespace Scalar

/-- Is it a NaN? -/
def isNaN : Scalar → Bool
  | .number n => n.isNaN
  | _ => false

/-- There is a value, and it is not a NaN. -/
def Known (value : Scalar) : Prop :=
  value ≠ .null ∧ value.isNaN = false

instance (value : Scalar) : Decidable value.Known :=
  inferInstanceAs (Decidable (_ ∧ _))

/-- What an operand counts as beside field values of a type: a scalar of that type, if it has an
order with them. -/
def threshold? (type : ScalarType) (operand : Scalar) : Option Scalar :=
  match type, operand with
  | .number, operand => operand.number?.map .number
  | .string, .string s => some (.string s)
  | .timestamp, .timestamp t => some (.timestamp t)
  | _, _ => none

variable {type : ScalarType} {value operand t : Scalar} {order : Option Ordering}

/-- A threshold has the type of the values, and it is a NaN only if the operand is one itself. -/
theorem threshold?_eq_some (h : operand.threshold? type = some t) :
    t.type = type ∧ t.isNaN = operand.isNaN := by
  unfold threshold? at h
  split at h
  · obtain ⟨n, hn, rfl⟩ := Option.map_eq_some_iff.1 h
    refine ⟨rfl, ?_⟩
    cases operand with
    | number m => cases hn; rfl
    | string s => exact Number.isNaN_of_read? hn
    | _ => cases hn
  · cases h; exact ⟨rfl, rfl⟩
  · cases h; exact ⟨rfl, rfl⟩
  · cases h

/-- **An operand is compared as its threshold is sorted**, but for NaN. -/
theorem compareOperand?_eq_threshold (value operand : Scalar) :
    value.compareOperand? operand = (operand.threshold? value.type).map fun t =>
      if value.isNaN || t.isNaN then none else some (Scalar.compare value t) := by
  cases value with
  | number a =>
    have hnumber : (Scalar.number a).compareOperand? operand = operand.number?.map a.compare? := by
      cases operand <;> rfl
    rw [hnumber, funext (Number.compare?_eq_compareTotal a), type, threshold?, Option.map_map]
    rfl
  | _ => cases operand <;> rfl

/-- Equality is the middle outcome of a comparison. -/
theorem equalsOperand_of_compareOperand? (h : value.compareOperand? operand = some order) :
    value.equalsOperand operand = (order == some .eq) := by
  have hsome : ∀ o : Ordering, ((some o : Option Ordering) == some .eq) = (o == .eq) := fun o => rfl
  cases value with
  | number a =>
    rw [equalsOperand, h]
    rfl
  | string a =>
    cases operand <;> cases h
    rw [equalsOperand, hsome, Bool.eq_iff_iff, beq_iff_eq, beq_iff_eq, Std.compare_eq_iff_eq]
  | timestamp a =>
    cases operand <;> cases h
    rw [equalsOperand, hsome, Bool.eq_iff_iff, beq_iff_eq, beq_iff_eq, Timestamp.compare_eq_iff]
  | _ => cases operand <;> cases h

end Scalar

/-! ### The outcomes -/

namespace Relation

variable {relation : Relation} {name : String} {value operand : Scalar}

/-- An operand that is right for an order is not null. -/
theorem ne_null_of_checkOperandType (h : relation.isOrder = true)
    (hcheck : relation.checkOperandType name operand = .ok ()) : operand ≠ .null := by
  rintro rfl
  cases relation <;> contradiction

/-- A value that is null or has an order with the operand has one outcome of the comparison, and all
relations of order and equality are read off it. -/
theorem exists_order (name : String) (hoperand : operand ≠ .null)
    (h : value = .null ∨ (operand.threshold? value.type).isSome) :
    ∃ order : Option Ordering,
      (order.isSome ↔ value.Known ∧ operand.isNaN = false) ∧
      (∀ relation : Relation, relation.isOrder = true →
        relation.evaluate name value operand = .ok (order.map relation.admits)) ∧
      Predicate.evaluate ⟨.equals, false⟩ name value operand = .ok (order == some .eq) := by
  by_cases hvalue : value = .null
  · subst hvalue
    refine ⟨none, by simp [Scalar.Known], fun relation horder => ?_, ?_⟩
    · obtain ⟨hblank, hequals, -⟩ := isOrder_cases horder
      exact evaluate_null hblank fun hnull => hequals hnull.1
    · have hunknown : equals.evaluate name .null operand = .ok none :=
        evaluate_null nofun fun hnull => hoperand hnull.2
      rw [Predicate.evaluate, hunknown]
      rfl
  · obtain ⟨t, ht⟩ := Option.isSome_iff_exists.1 (h.resolve_left hvalue)
    let order := if value.isNaN || operand.isNaN then none else some (Scalar.compare value t)
    have hcompare : value.compareOperand? operand = some order := by
      rw [Scalar.compareOperand?_eq_threshold, ht, Option.map_some, (Scalar.threshold?_eq_some ht).2]
    refine ⟨order, ?_, fun relation h => ?_, ?_⟩
    · cases hnan : value.isNaN <;> cases hnan' : operand.isNaN <;>
        simp [Scalar.Known, order, hnan, hnan', hvalue]
    · rw [evaluate_of_isOrder h hvalue, hcompare]
    · rw [Predicate.evaluate, evaluate_equals hvalue hoperand,
        Scalar.equalsOperand_of_compareOperand? hcompare]
      simp [Except.map]

end Relation

namespace Predicate

variable {relation : Relation} {name : String} {value operand : Scalar}

theorem evaluate_of_order {order : Option Ordering}
    (h : relation.evaluate name value operand = .ok (order.map relation.admits)) (negated : Bool) :
    evaluate ⟨relation, negated⟩ name value operand =
      .ok (order.elim false fun o => relation.admits o != negated) := by
  rw [evaluate, h]
  cases order <;> rfl

/-- **Less, equal and greater divide what is known.** For an operand that is right for an order,
the relations of order and their negations fail together, over the same types, where a value is
there and the operand counts as nothing of its type. Else they all have an outcome, and so has
equality. Of less, equal and greater exactly one is true if the value is not null and neither side
is a NaN, and none otherwise; the other relations of order and the negations follow from the
three. -/
theorem order_trichotomy (name : String) (value operand : Scalar)
    (hoperand : ∀ relation : Relation, relation.isOrder = true →
      relation.checkOperandType name operand = .ok ()) :
    let outcome := fun relation negated => evaluate ⟨relation, negated⟩ name value operand
    let known := value.Known ∧ operand.isNaN = false
    ((value ≠ .null ∧ operand.threshold? value.type = none) ∧
      ∀ relation negated, relation.isOrder = true →
        outcome relation negated =
          .error (.typeMismatch name relation [value.type] operand.type)) ∨
    ((value = .null ∨ (operand.threshold? value.type).isSome) ∧ ∃ less equal greater : Bool,
      outcome .less false = .ok less ∧ outcome .equals false = .ok equal ∧
      outcome .greater false = .ok greater ∧
      outcome .lessOrEqual false = .ok (less || equal) ∧
      outcome .greaterOrEqual false = .ok (greater || equal) ∧
      outcome .less true = outcome .greaterOrEqual false ∧
      outcome .lessOrEqual true = outcome .greater false ∧
      outcome .greater true = outcome .lessOrEqual false ∧
      outcome .greaterOrEqual true = outcome .less false ∧
      [less, equal, greater].count true = if known then 1 else 0) := by
  intro outcome known
  have hnull : operand ≠ .null :=
    Relation.ne_null_of_checkOperandType rfl (hoperand .less rfl)
  by_cases hcompared : value = .null ∨ (operand.threshold? value.type).isSome
  · obtain ⟨order, hknown, horder, hequals⟩ := Relation.exists_order name hnull hcompared
    refine .inr ⟨hcompared, order == some .lt, order == some .eq, order == some .gt, ?_⟩
    have houtcome : ∀ relation negated, relation.isOrder = true → outcome relation negated =
        .ok (order.elim false fun o => relation.admits o != negated) := fun relation negated h =>
      evaluate_of_order (horder relation h) negated
    have hmiddle : outcome .equals false = .ok (order == some .eq) := hequals
    clear_value outcome
    simp only [hmiddle, houtcome .less _ rfl, houtcome .lessOrEqual _ rfl, houtcome .greater _ rfl,
      houtcome .greaterOrEqual _ rfl, known, ← hknown]
    rcases order with _ | _ | _ | _ <;> decide
  · obtain ⟨hvalue, hthreshold⟩ := not_or.1 hcompared
    rw [Option.not_isSome_iff_eq_none] at hthreshold
    refine .inl ⟨⟨hvalue, hthreshold⟩, fun relation negated h => ?_⟩
    rw [evaluate_eq_error_iff, Relation.evaluate_of_isOrder h hvalue,
      Scalar.compareOperand?_eq_threshold, hthreshold]
    rfl

/-- A whole number that no double holds, given as a text, beside the double next to it. -/
theorem order_trichotomy_near_words :
    let value : Scalar := .number (.double ⟨0x4340000000000000⟩)
    let operand : Scalar := .string "9007199254740993"
    let outcome := fun relation negated => evaluate ⟨relation, negated⟩ "price" value operand
    (∀ relation : Relation, relation.isOrder = true →
      relation.checkOperandType "price" operand = .ok ()) ∧
    outcome .less false = .ok true ∧ outcome .equals false = .ok false ∧
      outcome .greater false = .ok false ∧ outcome .lessOrEqual false = .ok true ∧
      outcome .greaterOrEqual true = .ok true := by
  intro value operand outcome
  have hcheck : ∀ relation : Relation, relation.isOrder = true →
      relation.checkOperandType "price" operand = .ok () := by
    intro relation h
    cases relation <;> first | contradiction | rfl
  have hknown : value.Known ∧ operand.isNaN = false := by decide
  have htrue : outcome .less false = .ok true := by decide +kernel
  obtain ⟨⟨-, hnone⟩, -⟩ | ⟨-, less, equal, greater, hless, hequal, hgreater, hlessOrEqual, -, -, -,
    -, hnotLess, hcount⟩ := order_trichotomy "price" value operand hcheck
  · exact absurd hnone (by decide +kernel)
  · obtain rfl : less = true := Except.ok.inj (hless.symm.trans htrue)
    rw [if_pos hknown] at hcount
    have hothers : equal = false ∧ greater = false := by
      revert hcount
      cases equal <;> cases greater <;> decide
    rw [hothers.1] at hequal hlessOrEqual
    rw [hothers.2] at hgreater
    exact ⟨hcheck, htrue, hequal, hgreater, hlessOrEqual, hnotLess.trans htrue⟩

end Predicate

end KeyedFilter
