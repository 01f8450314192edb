import KeyedFilter.Source

/-!
# Searches

A catalog says which source is searched, which fields are open to filters, which filters are
registered and whether results come in pages. A search answers one request with it. It asks the
source when its result is first wanted and keeps the result; it does not keep a failure.

* `Search.results`, `Search.count`, `Search.isEmpty`: the result, its size, and whether it is empty,
  each with the search as it is afterwards.
* `Search.finish`: the result, when the search is not needed any more.
-/

namespace KeyedFilter

/-- What is set up once for many requests. -/
structure Catalog (σ Q ε : Type) where
  source : Source σ Q ε
  fields : List String := []
  named : NamedFilters Q := ∅
  paging : Option Paging := none

namespace Catalog

variable {σ Q ε : Type}

/-- The fields with others behind them, each once. -/
def addFields (known fields : List String) : List String :=
  fields.foldl (fun known field => if known.contains field then known else known ++ [field]) known

/-- Opens more fields to filters. -/
def openFields (catalog : Catalog σ Q ε) (fields : List String) : Catalog σ Q ε :=
  { catalog with fields := addFields catalog.fields fields }

/-- Registers a filter under a name. -/
def register (catalog : Catalog σ Q ε) (name : String) (filter : Q → Scalar → Q) :
    Catalog σ Q ε :=
  { catalog with named := catalog.named.insert name filter }

end Catalog

/-- A request to a catalog, with its result once that is known. -/
structure Search (σ Q ε : Type) where
  catalog : Catalog σ Q ε
  request : Request
  memo : Option (List ε) := none

namespace Search

variable {σ Q ε : Type}

/-- The filter plan of the request. -/
def plan (search : Search σ Q ε) : Except FilterError FilterPlan :=
  FilterPlan.ofFilters search.request.filters search.catalog.fields search.catalog.named.keys

/-- The query of the request, for a filter plan. -/
def prepare (search : Search σ Q ε) (plan : FilterPlan) (query : Q) : Action σ Q := do
  let query ← search.catalog.source.refine search.catalog.named plan query
  match search.catalog.paging with
  | none => return query
  | some paging =>
    search.catalog.source.cut query (paging.window search.request.page search.request.perPage)

/-- Asks the source. Nothing is asked of it unless the whole request is valid. -/
def attempt (search : Search σ Q ε) : Action σ (List ε) := do
  let plan ← ExceptT.mk (pure search.plan)
  let start ← search.catalog.source.start
  let query ← search.prepare plan start
  search.catalog.source.run query

/-- The result of the request. -/
def results (search : Search σ Q ε) : StateM σ (Except FilterError (List ε) × Search σ Q ε) :=
  match search.memo with
  | some entities => pure (.ok entities, search)
  | none => do
    match ← search.attempt.run with
    | .ok entities => return (.ok entities, { search with memo := some entities })
    | .error e => return (.error e, search)

/-- The number of entities in the result. -/
def count (search : Search σ Q ε) : StateM σ (Except FilterError Nat × Search σ Q ε) := do
  let (outcome, search) ← search.results
  return (outcome.map List.length, search)

/-- Is the result empty? -/
def isEmpty (search : Search σ Q ε) : StateM σ (Except FilterError Bool × Search σ Q ε) := do
  let (outcome, search) ← search.results
  return (outcome.map List.isEmpty, search)

/-- The result, from a search that is given up for it. -/
def finish (search : Search σ Q ε) : Action σ (List ε) :=
  match search.memo with
  | some entities => pure entities
  | none => search.attempt

end Search

end KeyedFilter
