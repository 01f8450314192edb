import KeyedFilter.Proofs.FilterPlan
import KeyedFilter.Proofs.Predicate.Outcome
import KeyedFilter.Scalar.Conversion

/-!
# Type mismatches

The operand of a constraint is checked when the constraint is made, and the value of its field when
it is evaluated. What the check leaves to fail are the values: those that are no texts, beside a
pattern, and those that have no order with the operand. Then the two types in the error differ; it
would be the operand that a pattern finds fault with, if the check had let through one that is no
text.

* `Scalar.HasOrderWith`: the pairs that a relation of order is for.
* `Relation.evaluate_eq_error_iff`: when a relation fails, and with which error.
* `Constraint.fails_iff_mismatched`: the same for the constraints that can be made.
-/

namespace KeyedFilter

/-- A number is ordered with a number and with a text that denotes one, a text with a text, and a
timestamp with a timestamp. -/
inductive Scalar.HasOrderWith : Scalar → Scalar → Prop
  | numbers (a b : Number) : HasOrderWith (.number a) (.number b)
  | numeral (a : Number) {b : Number} {text : String} (h : Number.read? text = some b) :
    HasOrderWith (.number a) (.string text)
  | texts (a b : String) : HasOrderWith (.string a) (.string b)
  | timestamps (a b : Timestamp) : HasOrderWith (.timestamp a) (.timestamp b)

namespace Scalar

variable {value operand : Scalar}

/-- A value is compared with an operand when the two have an order. -/
theorem compareOperand?_eq_none_iff :
    value.compareOperand? operand = none ↔ ¬ value.HasOrderWith operand := by
  constructor
  · rintro hnone (_ | ⟨a, hread⟩ | _ | _)
    · cases hnone
    · rw [compareOperand?, hread] at hnone
      cases hnone
    · cases hnone
    · cases hnone
  · intro horder
    unfold compareOperand?
    split
    · exact absurd (.numbers _ _) horder
    · rename_i a text
      rw [Option.map_eq_none_iff, Option.eq_none_iff_forall_ne_some]
      exact fun b hread => horder (.numeral a hread)
    · exact absurd (.texts _ _) horder
    · exact absurd (.timestamps _ _) horder
    · rfl

theorem text?_eq_none_iff : value.text? = none ↔ value.type ≠ .string := by
  cases value <;> simp [text?, type]

end Scalar

/-- Types have different names in messages. -/
theorem ScalarType.name_injective : Function.Injective ScalarType.name := by
  rintro (_ | _ | _ | _ | _) (_ | _ | _ | _ | _) h <;> first | rfl | (revert h; decide)

namespace Relation

variable {relation : Relation} {name : String} {value operand : Scalar} {e : FilterError}

/-- A relation to a text takes a text for its operand. -/
theorem exists_text_of_checkOperandType (h : relation.isTextual = true)
    (hcheck : relation.checkOperandType name operand = .ok ()) :
    ∃ part, operand = .string part := by
  rw [checkOperandType, operandTypes?, if_pos h] at hcheck
  cases operand with
  | string part => exact ⟨part, rfl⟩
  | null | bool | number | timestamp => cases hcheck

/-- An operand of an order has an order with all values of its own type. -/
theorem hasOrderWith_of_type_eq (h : relation.isOrder = true)
    (hcheck : relation.checkOperandType name operand = .ok ()) (htype : value.type = operand.type) :
    value.HasOrderWith operand := by
  rw [checkOperandType, operandTypes?, (isOrder_cases h).2.2, if_neg nofun, if_pos h] at hcheck
  cases operand with
  | null | bool => cases hcheck
  | number b => cases value <;> first | exact .numbers _ b | cases htype
  | string b => cases value <;> first | exact .texts _ b | cases htype
  | timestamp b => cases value <;> first | exact .timestamps _ b | cases htype

/-- A relation to a text looks for the operand in any value that is there. -/
theorem evaluate_of_isTextual (h : relation.isTextual = true) (hvalue : value ≠ .null)
    (part : String) :
    relation.evaluate name value (.string part) =
      value.text?.elim (.error (.typeMismatch name relation [.string] value.type))
        fun text => .ok (some (relation.matchesText text part)) := by
  have hblank : relation ≠ .blank := by rintro rfl; cases h
  have hequals : relation ≠ .equals := by rintro rfl; cases h
  rw [evaluate, if_neg hblank, if_neg fun hnull => hequals hnull.1,
    if_neg (mt Scalar.isNull_iff.1 hvalue), evaluatePresent, if_neg hequals, if_pos h]
  cases value <;> rfl

/-- Only a value that is there can be wrong, and only for a pattern or for an order. -/
theorem of_evaluate_eq_error (h : relation.evaluate name value operand = .error e) :
    value ≠ .null ∧ (relation.isTextual = true ∨ relation.isOrder = true) := by
  unfold evaluate at h
  split_ifs at h with hblank hnull hvalue
  refine ⟨mt Scalar.isNull_iff.2 hvalue, ?_⟩
  unfold evaluatePresent at h
  split_ifs at h with hequals htextual
  · exact .inl htextual
  · exact .inr (isOrder_eq_true hblank hequals (by simpa using htextual))

/-- The type that a relation expects and the one that it finds instead: a pattern expects a value
that is a text, and an order expects an operand of the type of the value. -/
inductive Mismatched (relation : Relation) (value operand : Scalar) : ScalarType → ScalarType → Prop
  | noText (h : relation.isTextual = true) (htype : value.type ≠ .string) :
    Mismatched relation value operand .string value.type
  | noOrder (h : relation.isOrder = true) (horder : ¬ value.HasOrderWith operand) :
    Mismatched relation value operand value.type operand.type

variable {expected actual : ScalarType}

theorem evaluate_of_mismatched (hcheck : relation.checkOperandType name operand = .ok ())
    (hvalue : value ≠ .null) (h : relation.Mismatched value operand expected actual) :
    relation.evaluate name value operand =
      .error (.typeMismatch name relation [expected] actual) := by
  cases h with
  | noText htextual htype =>
    obtain ⟨part, rfl⟩ := exists_text_of_checkOperandType htextual hcheck
    rw [evaluate_of_isTextual htextual hvalue, Scalar.text?_eq_none_iff.2 htype]
    rfl
  | noOrder h horder =>
    rw [evaluate_of_isOrder h hvalue, Scalar.compareOperand?_eq_none_iff.2 horder]

/-- **When a relation fails, and with which error**, if the operand is right. -/
theorem evaluate_eq_error_iff (hcheck : relation.checkOperandType name operand = .ok ()) :
    relation.evaluate name value operand = .error e ↔ value ≠ .null ∧
      ∃ expected actual, relation.Mismatched value operand expected actual ∧
        e = .typeMismatch name relation [expected] actual := by
  constructor
  · intro hfails
    obtain ⟨hvalue, htextual | horder⟩ := of_evaluate_eq_error hfails
    · obtain ⟨part, rfl⟩ := exists_text_of_checkOperandType htextual hcheck
      rw [evaluate_of_isTextual htextual hvalue] at hfails
      cases htext : value.text? with
      | none =>
        rw [htext] at hfails
        cases hfails
        exact ⟨hvalue, _, _, .noText htextual (Scalar.text?_eq_none_iff.1 htext), rfl⟩
      | some text =>
        rw [htext] at hfails
        cases hfails
    · rw [evaluate_of_isOrder horder hvalue] at hfails
      cases hcompare : value.compareOperand? operand with
      | none =>
        rw [hcompare] at hfails
        cases hfails
        exact ⟨hvalue, _, _, .noOrder horder (Scalar.compareOperand?_eq_none_iff.1 hcompare), rfl⟩
      | some order =>
        rw [hcompare] at hfails
        cases hfails
  · rintro ⟨hvalue, expected, actual, hmismatched, rfl⟩
    exact evaluate_of_mismatched hcheck hvalue hmismatched

/-- **What is expected is not what is found**: a pair of one type has passed the check only if it has
an order. -/
theorem Mismatched.types_ne (hcheck : relation.checkOperandType name operand = .ok ())
    (h : relation.Mismatched value operand expected actual) : expected ≠ actual := by
  cases h with
  | noText _ htype => exact htype.symm
  | noOrder h horder => exact fun htype => horder (hasOrderWith_of_type_eq h hcheck htype)

theorem exists_mismatched_iff :
    (∃ expected actual, relation.Mismatched value operand expected actual) ↔
      relation.isTextual = true ∧ value.type ≠ .string ∨
        relation.isOrder = true ∧ ¬ value.HasOrderWith operand := by
  constructor
  · rintro ⟨_, _, ⟨htextual, htype⟩ | ⟨h, horder⟩⟩
    · exact .inl ⟨htextual, htype⟩
    · exact .inr ⟨h, horder⟩
  · rintro (⟨htextual, htype⟩ | ⟨h, horder⟩)
    · exact ⟨_, _, .noText htextual htype⟩
    · exact ⟨_, _, .noOrder h horder⟩

end Relation

namespace Constraint

variable {key : FilterKey} {operand : Scalar} {c : Constraint}

/-- **What can still fail when the operand has been checked.** A constraint that could be made fails
on a value that is there and is no text, if it looks for a text, or has no order with the operand,
if it compares by order; tests for equality and blankness never fail. The error names the field, the
token of the relation and two types, which are different ones, and it is the same whether or not the
relation is negated. -/
theorem fails_iff_mismatched (h : ofKey key operand = .ok c) (value : Scalar) :
    let relation := key.predicate.relation
    ((∃ e, c.holds value = .error e) ↔ value ≠ .null ∧
      (relation.isTextual = true ∧ value.type ≠ .string ∨
        relation.isOrder = true ∧ ¬ value.HasOrderWith operand)) ∧
    (relation = .equals ∨ relation = .blank → ∃ known, c.holds value = .ok known) ∧
    (∀ e, c.holds value = .error e → ∃ expected actual : ScalarType,
      e = .typeMismatch key.field relation [expected] actual ∧
      e.message = "type mismatch on '" ++ key.field ++ "' (" ++ relation.token ++
        "): expected " ++ expected.name ++ ", got " ++ actual.name ∧
      expected.name ≠ actual.name) ∧
    (∀ e, c.holds value = .error e ↔ relation.evaluate key.field value operand = .error e) ∧
    ∀ negated e, Constraint.holds { c with predicate := ⟨relation, negated⟩ } value = .error e ↔
      c.holds value = .error e := by
  intro relation
  obtain ⟨hcheck, rfl⟩ := ofKey_eq_ok_iff.1 h
  have hfails (negated : Bool) (e : FilterError) :
      Constraint.holds ⟨key.field, ⟨relation, negated⟩, operand⟩ value = .error e ↔
        relation.evaluate key.field value operand = .error e :=
    Predicate.evaluate_eq_error_iff
  have hholds (e : FilterError) : Constraint.holds ⟨key.field, key.predicate, operand⟩ value =
      .error e ↔ relation.evaluate key.field value operand = .error e :=
    hfails key.predicate.negated e
  have hwhen : (∃ e, Constraint.holds ⟨key.field, key.predicate, operand⟩ value = .error e) ↔
      value ≠ .null ∧ (relation.isTextual = true ∧ value.type ≠ .string ∨
        relation.isOrder = true ∧ ¬ value.HasOrderWith operand) := by
    rw [← Relation.exists_mismatched_iff]
    constructor
    · rintro ⟨e, he⟩
      obtain ⟨hvalue, expected, actual, hmismatched, -⟩ :=
        (Relation.evaluate_eq_error_iff hcheck).1 ((hholds e).1 he)
      exact ⟨hvalue, expected, actual, hmismatched⟩
    · rintro ⟨hvalue, expected, actual, hmismatched⟩
      exact ⟨_, (hholds _).2 (Relation.evaluate_of_mismatched hcheck hvalue hmismatched)⟩
  refine ⟨hwhen, fun hkind => ?_, fun e he => ?_, hholds, fun negated e => ?_⟩
  · cases houtcome : Constraint.holds ⟨key.field, key.predicate, operand⟩ value with
    | ok known => exact ⟨known, rfl⟩
    | error e =>
      obtain ⟨-, ⟨htextual, -⟩ | ⟨horder, -⟩⟩ := hwhen.1 ⟨e, houtcome⟩
      · rcases hkind with hkind | hkind <;> rw [hkind] at htextual <;> cases htextual
      · rcases hkind with hkind | hkind <;> rw [hkind] at horder <;> cases horder
  · obtain ⟨-, expected, actual, hmismatched, rfl⟩ :=
      (Relation.evaluate_eq_error_iff hcheck).1 ((hholds e).1 he)
    exact ⟨expected, actual, rfl, rfl,
      fun hname => hmismatched.types_ne hcheck (ScalarType.name_injective hname)⟩
  · rw [hholds, hfails]

/-- A text that denotes no number is let through, and is found to have no order with a price. -/
theorem fails_iff_mismatched_cheap :
    let key : FilterKey := ⟨"price", ⟨.less, true⟩⟩
    let c : Constraint := ⟨"price", ⟨.less, true⟩, .string "cheap"⟩
    let e : FilterError := .typeMismatch "price" .less [.number] .string
    ofKey key (.string "cheap") = .ok c ∧ c.holds (.signed 20) = .error e ∧
      e.message = "type mismatch on 'price' (lt): expected number, got string" ∧
      ¬ (Scalar.signed 20).HasOrderWith (.string "cheap") := by
  intro key c e
  have hmade : ofKey key (.string "cheap") = .ok c := rfl
  have hfails : c.holds (.signed 20) = .error e := by decide +kernel
  obtain ⟨hwhen, -, hwhich, -⟩ := fails_iff_mismatched hmade (.signed 20)
  obtain ⟨expected, actual, heq, hmessage, -⟩ := hwhich e hfails
  obtain ⟨-, ⟨htextual, -⟩ | ⟨-, horder⟩⟩ := hwhen.1 ⟨e, hfails⟩
  · cases htextual
  · exact ⟨hmade, hfails, rfl, horder⟩

end Constraint

end KeyedFilter
