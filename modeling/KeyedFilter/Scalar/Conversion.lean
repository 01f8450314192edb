import KeyedFilter.Scalar.Basic

/-!
# Conversion to scalars

The types of record fields and of values in programs that have a scalar: texts, truth values,
timestamps, the signed and unsigned words of every width, the two floating-point formats, and an
optional value of any of them. A signed word stays signed and an unsigned one unsigned.
-/

namespace KeyedFilter

/-- Types whose values are scalars. -/
class ToScalar (α : Type) where
  toScalar : α → Scalar

export ToScalar (toScalar)

/-- A signed word as a scalar. -/
def Scalar.signed (n : Int64) : Scalar := .number (.signed n)

/-- An unsigned word as a scalar. -/
def Scalar.unsigned (n : UInt64) : Scalar := .number (.unsigned n)

/-- A double as a scalar. -/
def Scalar.double (x : Binary64) : Scalar := .number (.double x)

instance : ToScalar String := ⟨.string⟩

instance : ToScalar Bool := ⟨.bool⟩

instance : ToScalar Timestamp := ⟨.timestamp⟩

instance : ToScalar Number := ⟨.number⟩

instance : ToScalar Int8 := ⟨fun n => .signed n.toInt64⟩

instance : ToScalar Int16 := ⟨fun n => .signed n.toInt64⟩

instance : ToScalar Int32 := ⟨fun n => .signed n.toInt64⟩

instance : ToScalar Int64 := ⟨.signed⟩

instance : ToScalar ISize := ⟨fun n => .signed n.toInt64⟩

instance : ToScalar UInt8 := ⟨fun n => .unsigned n.toUInt64⟩

instance : ToScalar UInt16 := ⟨fun n => .unsigned n.toUInt64⟩

instance : ToScalar UInt32 := ⟨fun n => .unsigned n.toUInt64⟩

instance : ToScalar UInt64 := ⟨.unsigned⟩

instance : ToScalar USize := ⟨fun n => .unsigned n.toUInt64⟩

instance : ToScalar Binary32 := ⟨fun x => .double x.toBinary64⟩

instance : ToScalar Binary64 := ⟨.double⟩

/-- An absent value is null. -/
instance {α : Type} [ToScalar α] : ToScalar (Option α) := ⟨fun a => a.elim .null toScalar⟩

end KeyedFilter
