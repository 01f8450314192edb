import KeyedFilter.FilterPlan
import KeyedFilter.Paging

/-!
# Sources of entities

A source holds entities and answers queries. It takes a query step by step: each constraint and the
window are put into it, and at last it is run. Any step but the first may fail, and a source may
have a state that changes with every step, so the same step may fail once and succeed later.

* `Source`: the steps.
* `Source.refine`: a filter plan is put into a query.
-/

namespace KeyedFilter

/-- A step that may fail and may change a state, which is kept when it fails. -/
abbrev Action (σ α : Type) := ExceptT FilterError (StateM σ) α

/-- A source of entities `ε` with queries `Q` and a state `σ`. -/
structure Source (σ Q ε : Type) where
  /-- The query for everything. -/
  start : StateM σ Q
  /-- The query for what also satisfies a constraint. -/
  constrain : Q → Constraint → Action σ Q
  /-- The query for a part of the result. -/
  cut : Q → Window → Action σ Q
  /-- The result of a query. -/
  run : Q → Action σ (List ε)

/-- Applies the registered filters that a plan asks for. A name that is not registered is passed
over. -/
def NamedFilters.applyTo {Q : Type} (registered : NamedFilters Q) (plan : FilterPlan) (query : Q) :
    Q :=
  plan.named.foldl
    (fun query (name, operand) =>
      (registered.get? name).elim query fun filter => filter query operand)
    query

/-- Puts a filter plan into a query: first the registered filters, then the constraints that none of
them stands in for. -/
def Source.refine {σ Q ε : Type} (source : Source σ Q ε) (registered : NamedFilters Q)
    (plan : FilterPlan) (query : Q) : Action σ Q :=
  plan.remaining.foldlM source.constrain (registered.applyTo plan query)

end KeyedFilter
