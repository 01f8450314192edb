import KeyedFilter.FilterKey
import KeyedFilter.Predicate.Evaluation
import KeyedFilter.Request.Basic

/-!
# Filter plans

A filter plan is what the filters of a request come to: constraints on fields, and operands for
filters that are registered under a name of their own. The whole request is checked first, so that
one bad filter leaves nothing to apply.

* `FilterPlan.ofFilters`: the plan of a request, or the error of its first bad filter.
* `Constraint.groupByField`: constraints on one field stand together.
-/

namespace KeyedFilter

/-- A predicate on a field, with its operand. -/
structure Constraint where
  field : String
  predicate : Predicate
  operand : Scalar
  deriving DecidableEq, Repr

namespace Constraint

/-- The constraint for a key and an operand, if the operand is right for the predicate. -/
def ofKey (key : FilterKey) (operand : Scalar) : Except FilterError Constraint := do
  key.predicate.relation.checkOperandType key.field operand
  return ⟨key.field, key.predicate, operand⟩

/-- The constraint that a filter asks for, when these fields are open to filters. -/
def ofFilter (fields : List String) (filter : String × Scalar) :
    Except FilterError Constraint := do
  let key ← FilterKey.parse fields filter.1
  ofKey key filter.2

/-- Is the constraint definitely true of a value of its field? -/
def holds (c : Constraint) (value : Scalar) : Except FilterError Bool :=
  c.predicate.evaluate c.field value c.operand

/-- Brings the constraints on one field together: the fields in the order of their first appearance,
and the constraints on a field in the order that they had. -/
def groupByField (constraints : List Constraint) : List Constraint :=
  (constraints.map (·.field)).eraseDups.flatMap fun field => constraints.filter (·.field == field)

end Constraint

/-- Filters that are registered by name and change a query in ways of their own. -/
abbrev NamedFilters (Q : Type) := OrderedMap (Q → Scalar → Q)

/-- Constraints, and the operands of the registered filters that were asked for. -/
structure FilterPlan where
  constraints : List Constraint
  named : List (String × Scalar)
  deriving DecidableEq, Repr

namespace FilterPlan

instance : Inhabited FilterPlan := ⟨[], []⟩

/-- Does the plan hold nothing? -/
def isEmpty (plan : FilterPlan) : Bool :=
  plan.constraints.isEmpty && plan.named.isEmpty

/-- Is a registered filter asked for under the name of the field? -/
def covers (plan : FilterPlan) (field : String) : Bool :=
  plan.named.any (·.1 == field)

/-- The constraints that no registered filter stands in for. -/
def remaining (plan : FilterPlan) : List Constraint :=
  plan.constraints.filter fun c => !plan.covers c.field

/-- The plan for some filters, when these fields are open to filters and these names are registered.
A registered name is never read as a filter key. -/
def ofFilters (filters : Filters) (fields registered : List String) :
    Except FilterError FilterPlan := do
  let keyed := filters.entries.filter fun filter => !registered.contains filter.1
  let constraints ← keyed.mapM (Constraint.ofFilter fields)
  let named := registered.filterMap fun name =>
    (filters.get? name).map fun operand => (name, operand)
  return ⟨Constraint.groupByField constraints, named⟩

end FilterPlan

end KeyedFilter
