import KeyedFilter.Error
import KeyedFilter.Text.Pattern

/-!
# Evaluation of predicates

A predicate is evaluated on a field value and an operand. The outcome is true, false or unknown: on
a null field everything but `blank` and equality with null is unknown, and so is an order that
involves a NaN. An unknown outcome stays unknown under negation, and only what is definitely true is
kept.

* `Relation.checkOperandType`: may the relation be used with an operand at all?
* `Relation.evaluate`: the outcome, `none` when it is unknown.
* `Predicate.evaluate`: is the predicate definitely true?
-/

namespace KeyedFilter

namespace Relation

/-- The types of operands that the relation is for; `none` if it takes any. -/
def operandTypes? (relation : Relation) : Option (List ScalarType) :=
  if relation.isTextual then some [.string]
  else if relation.isOrder then some [.string, .number, .timestamp]
  else none

/-- Checks the operand before any value is looked at. -/
def checkOperandType (relation : Relation) (field : String) (operand : Scalar) :
    Except FilterError Unit :=
  match relation.operandTypes? with
  | none => .ok ()
  | some expected =>
    if operand.type ∈ expected then .ok ()
    else .error (.typeMismatch field relation expected operand.type)

end Relation

/-- The order of a field value and an operand: `none` when their types have no order, and
`some none` when they are numbers of which one is a NaN. A text is read as a number where the field
holds one. -/
def Scalar.compareOperand? (value operand : Scalar) : Option (Option Ordering) :=
  match value, operand with
  | .number a, .number b => some (a.compare? b)
  | .number a, .string b => (Number.read? b).map a.compare?
  | .string a, .string b => some (some (compare a b))
  | .timestamp a, .timestamp b => some (some (a.compare b))
  | _, _ => none

/-- Is a field value equal to an operand? Values of different types are not equal, but a text may
denote the number that a field holds. -/
def Scalar.equalsOperand (value operand : Scalar) : Bool :=
  match value, operand with
  | .string a, .string b => a == b
  | .bool a, .bool b => a == b
  | .timestamp a, .timestamp b => a == b
  | .number _, operand => value.compareOperand? operand == some (some .eq)
  | _, _ => false

namespace Relation

/-- Does the order satisfy the relation? -/
def admits (relation : Relation) (order : Ordering) : Bool :=
  match relation with
  | less => order == .lt
  | lessOrEqual => order != .gt
  | greater => order == .gt
  | greaterOrEqual => order != .lt
  | _ => false

/-- Does the first text stand in the pattern relation to the second? -/
def matchesText (relation : Relation) (text part : String) : Bool :=
  match relation with
  | startsWith => Text.startsWith text part
  | endsWith => Text.endsWith text part
  | _ => Text.contains text part

/-- Is the value null or the empty text? -/
def holdsBlank : Scalar → Bool
  | .null => true
  | .string s => s == ""
  | _ => false

/-- The outcome of a relation that is neither `blank` nor a test for null, on a value that is not
null. -/
def evaluatePresent (relation : Relation) (field : String) (value operand : Scalar) :
    Except FilterError (Option Bool) :=
  if relation = equals then .ok (some (value.equalsOperand operand))
  else if relation.isTextual then
    match value.text?, operand.text? with
    | some text, some part => .ok (some (relation.matchesText text part))
    | _, _ => .error (.typeMismatch field relation [.string] value.type)
  else
    match value.compareOperand? operand with
    | some order => .ok (order.map relation.admits)
    | none => .error (.typeMismatch field relation [value.type] operand.type)

/-- The outcome of a relation between a field value and an operand, `none` when it is unknown. -/
def evaluate (relation : Relation) (field : String) (value operand : Scalar) :
    Except FilterError (Option Bool) :=
  if relation = blank then .ok (some (holdsBlank value))
  else if relation = equals ∧ operand = .null then .ok (some value.isNull)
  else if value.isNull then .ok none
  else relation.evaluatePresent field value operand

end Relation

/-- Is the predicate definitely true of the field value? -/
def Predicate.evaluate (p : Predicate) (field : String) (value operand : Scalar) :
    Except FilterError Bool :=
  (p.relation.evaluate field value operand).map fun outcome =>
    outcome.elim false (· != p.negated)

end KeyedFilter
