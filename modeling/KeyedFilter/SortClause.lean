import KeyedFilter.Entity

/-!
# Sort clauses

The order of scalars and of entities. Scalars of one type have their natural order, with NaN after
every other number; different types stand in the order truth value, number, text, timestamp, null.
Entities are compared clause by clause, and the first difference decides.
-/

namespace KeyedFilter

/-- The place of a type among the types. -/
def ScalarType.rank : ScalarType → Nat
  | .bool => 0
  | .number => 1
  | .string => 2
  | .timestamp => 3
  | .null => 4

/-- The order of two scalars of any types. -/
protected def Scalar.compare (a b : Scalar) : Ordering :=
  match a, b with
  | .string a, .string b => Ord.compare a b
  | .number a, .number b => a.compareTotal b
  | .timestamp a, .timestamp b => a.compare b
  | .bool a, .bool b => Ord.compare a b
  | a, b => Ord.compare a.type.rank b.type.rank

/-- Whether small values come first or last. -/
inductive Direction where
  | ascending
  | descending
  deriving DecidableEq, Repr

namespace Direction

instance : Inhabited Direction := ⟨ascending⟩

/-- The name of a direction in requests. -/
def name : Direction → String
  | ascending => "asc"
  | descending => "desc"

/-- The direction with a name. -/
def named? : String → Option Direction
  | "asc" => some ascending
  | "desc" => some descending
  | _ => none

/-- An order, or its reverse. -/
def apply : Direction → Ordering → Ordering
  | ascending, order => order
  | descending, order => order.swap

end Direction

/-- Sorting by one field. -/
structure SortClause where
  field : String
  direction : Direction
  deriving DecidableEq, Repr

namespace SortClause

/-- The order of two values of the field. -/
def compare (clause : SortClause) (a b : Scalar) : Ordering :=
  clause.direction.apply (a.compare b)

/-- The order of two entities by a list of clauses. -/
def compareBy {ε : Type} [HasFields ε] (clauses : List SortClause) (a b : ε) : Ordering :=
  clauses.foldr
    (fun clause rest =>
      (clause.compare (HasFields.field a clause.field) (HasFields.field b clause.field)).then rest)
    .eq

end SortClause

end KeyedFilter
