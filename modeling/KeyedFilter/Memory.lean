import KeyedFilter.Search
import KeyedFilter.SortClause

/-!
# Entities in memory

A source that holds its entities in a list. A query collects constraints, tests and a window;
running it keeps the entities that satisfy everything, sorts them and cuts out the window.

* `Memory.select`: the result of a query.
* `Memory.source`: the source, which never fails before a query is run.
-/

namespace KeyedFilter

namespace Memory

/-- A query on entities in memory. -/
structure Query (ε : Type) where
  constraints : List Constraint := []
  tests : List (ε → Bool) := []
  window : Option Window := none

instance {ε : Type} : Inhabited (Query ε) := ⟨{}⟩

namespace Query

variable {ε : Type}

/-- Asks for one more test to hold. -/
def keepIf (query : Query ε) (test : ε → Bool) : Query ε :=
  { query with tests := query.tests ++ [test] }

/-- Asks for one more constraint to be satisfied. -/
def constrain (query : Query ε) (c : Constraint) : Query ε :=
  { query with constraints := query.constraints ++ [c] }

/-- Asks for a part of the result. -/
def cutTo (query : Query ε) (window : Window) : Query ε :=
  { query with window := some window }

end Query

variable {ε : Type} [HasFields ε]

/-- Does the entity satisfy all constraints? They are evaluated in order, up to the first that is
not true or cannot be evaluated. -/
def satisfies (constraints : List Constraint) (entity : ε) : Except FilterError Bool :=
  match constraints with
  | [] => .ok true
  | c :: rest => do
    if ← c.holds (field entity c.field) then satisfies rest entity else return false

/-- Does the entity satisfy the constraints and the tests of a query? -/
def Query.accepts (query : Query ε) (entity : ε) : Except FilterError Bool :=
  (satisfies query.constraints entity).map fun satisfied =>
    satisfied && query.tests.all fun test => test entity

/-- The entities that a query accepts, in order. An entity that cannot be judged fails the whole
query. -/
def matching (query : Query ε) : List ε → Except FilterError (List ε)
  | [] => .ok []
  | entity :: rest => do
    let accepted ← query.accepts entity
    let others ← matching query rest
    return if accepted then entity :: others else others

/-- The entities in the order of the clauses; entities that no clause tells apart stay as they
were. -/
def sort (clauses : List SortClause) (entities : List ε) : List ε :=
  entities.mergeSort fun a b => SortClause.compareBy clauses a b != .gt

/-- The part of a result that a query asks for. -/
def Query.cut (query : Query ε) (entities : List ε) : List ε :=
  query.window.elim entities fun window => window.cut entities

/-- The result of a query on some entities that are sorted by some clauses. -/
def select (entities : List ε) (clauses : List SortClause) (query : Query ε) :
    Except FilterError (List ε) :=
  (matching query entities).map fun found => query.cut (sort clauses found)

/-- The entities as a source. It has no use for a state. -/
def source {σ : Type} (entities : List ε) (clauses : List SortClause) :
    Source σ (Query ε) ε where
  start := pure {}
  constrain query c := pure (query.constrain c)
  cut query window := pure (query.cutTo window)
  run query := ExceptT.mk (pure (select entities clauses query))

end Memory

/-- Tests of one field of an entity against an operand. -/
inductive FieldTest where
  /-- Every entity passes. -/
  | all
  /-- No entity passes. -/
  | none
  /-- The field holds the operand itself. -/
  | same (field : String)
  /-- The predicate is definitely true of the field. -/
  | predicate (field : String) (p : Predicate)
  deriving DecidableEq, Repr

namespace FieldTest

variable {ε : Type} [HasFields ε]

/-- Does an entity pass the test? -/
def passes (test : FieldTest) (operand : Scalar) (entity : ε) : Bool :=
  match test with
  | all => true
  | none => false
  | same name => (field entity name).same operand
  | predicate name p =>
    match p.evaluate name (field entity name) operand with
    | .ok holds => holds
    | .error _ => false

/-- A filter that asks for the test to hold. -/
def filter (test : FieldTest) (query : Memory.Query ε) (operand : Scalar) : Memory.Query ε :=
  query.keepIf (test.passes operand)

end FieldTest

end KeyedFilter
