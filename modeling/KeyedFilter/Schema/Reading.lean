import KeyedFilter.Entity
import KeyedFilter.Schema.Basic

/-!
# Reading records through a schema

A record type with a schema has the fields that the schema opens, under the names that it gives
them. The record itself has only to say what a field of its own holds, read in one of the two ways.
-/

namespace KeyedFilter

/-- Record types with a schema. -/
class Recorded (ε : Type) where
  schema : Schema
  /-- What a field of the record holds, by its declared name. -/
  read : ε → FieldReading → String → Scalar

namespace Schema

/-- What a record holds under a name in filter keys. -/
def valueOf (schema : Schema) (read : FieldReading → String → Scalar) (name : String) : Scalar :=
  (schema.column? name).elim .null fun column => read column.reading column.source

/-- The filter name that a constant holds. -/
def constant? (schema : Schema) (constant : String) : Option String :=
  (schema.find? (·.constant == constant)).map (·.name)

end Schema

instance {ε : Type} [Recorded ε] : HasFields ε :=
  ⟨fun entity => (Recorded.schema ε).valueOf (Recorded.read entity)⟩

end KeyedFilter
