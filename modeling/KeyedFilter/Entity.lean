import KeyedFilter.Scalar.Basic

/-!
# Entities

What is searched: anything whose fields are read by name. A field that an entity does not have is
null.
-/

namespace KeyedFilter

/-- Entities whose fields are read by name. -/
class HasFields (ε : Type) where
  field : ε → String → Scalar

export HasFields (field)

/-- An entity that is no more than its fields. -/
structure Row where
  fields : List (String × Scalar)
  deriving DecidableEq, Repr

instance : HasFields Row := ⟨fun row name => (row.fields.lookup name).getD .null⟩

/-- An entity with something beside it, such as its number, has the fields of the entity. -/
instance {ε α : Type} [HasFields ε] : HasFields (α × ε) := ⟨fun entity => field entity.2⟩

end KeyedFilter
