import KeyedFilter.Number.Basic
import KeyedFilter.Timestamp

/-!
# Scalars

A scalar is what a field of an entity holds and what a filter compares it with: nothing, a truth
value, a number, a text or a timestamp.
-/

namespace KeyedFilter

/-- The five types of scalars. -/
inductive ScalarType where
  | string
  | number
  | timestamp
  | bool
  | null
deriving DecidableEq, Repr

/-- The name of a type in messages. -/
def ScalarType.name : ScalarType → String
  | .string => "string"
  | .number => "number"
  | .timestamp => "timestamp"
  | .bool => "bool"
  | .null => "null"

/-- A field value or an operand. -/
inductive Scalar where
  | null
  | bool (b : Bool)
  | number (n : Number)
  | string (s : String)
  | timestamp (t : Timestamp)
deriving DecidableEq, Repr, Inhabited

namespace Scalar

/-- The type of a scalar. -/
def type : Scalar → ScalarType
  | null => .null
  | bool _ => .bool
  | number _ => .number
  | string _ => .string
  | timestamp _ => .timestamp

/-- Is there no value? -/
def isNull : Scalar → Bool
  | null => true
  | _ => false

/-- The text, if the scalar is one. -/
def text? : Scalar → Option String
  | string s => some s
  | _ => none

/-- Same type and same content; numbers of different representations are not the same. -/
def same : Scalar → Scalar → Bool
  | null, null => true
  | bool a, bool b => a == b
  | number a, number b => a.same b
  | string a, string b => a == b
  | timestamp a, timestamp b => a == b
  | _, _ => false

/-- The timestamp as a scalar, or null. -/
def ofTimestamp? (t : Option Timestamp) : Scalar :=
  t.elim null timestamp

end Scalar

end KeyedFilter
