import KeyedFilter.Document.Yaml
import KeyedFilter.Document.JsonText
import KeyedFilter.Error
import KeyedFilter.Text.Quoted

/-!
# Refusals

Why a document is not read as a request: what was found, and what was wanted in its place. The words
depend a little on the kind of document, which is a `Dialect`.
-/

namespace KeyedFilter

/-- What was found in a document. -/
inductive Found where
  | null
  | bool (b : Bool)
  | integer (n : Int)
  | double (x : Binary64)
  | string (s : String)
  | sequence
  | mapping
  | tagged
  deriving DecidableEq, Repr

/-- What was wanted. -/
inductive Wanted where
  | filters
  | anyJson
  | string
  | memberName
  | count
  | request
  | fieldName
  deriving DecidableEq, Repr

/-- The causes for which a document is refused. -/
inductive Refusal where
  | wrongType (found : Found) (wanted : Wanted)
  | wrongValue (n : Int) (wanted : Wanted)
  | tooManyItems (count : Nat)
  | repeatedField (name : String)
  | unusable (error : FilterError)
  deriving DecidableEq, Repr

/-- Why a text is not read as a request. -/
inductive ReadError where
  | fault (fault : TextFault)
  | refused (refusal : Refusal)
  deriving DecidableEq, Repr

/-- How a kind of document is spoken of. -/
structure Dialect where
  /-- What a null is called. -/
  nullName : String
  /-- How doubles are written. -/
  layout : DecimalLayout

/-- Messages about JSON. -/
def Dialect.json : Dialect := ⟨"null", .document⟩

/-- Messages about YAML. -/
def Dialect.yaml : Dialect := ⟨"unit value", .plain⟩

/-- A number, as far as messages tell numbers apart. -/
def Found.ofNumber (n : Number) : Found :=
  match n with
  | .signed n => .integer n.toInt
  | .unsigned n => .integer n.toNat
  | .double x => .double x

/-- What a JSON tree is found to be. -/
def Json.found : Json → Found
  | .null => .null
  | .bool b => .bool b
  | .number n => .ofNumber n
  | .string s => .string s
  | .array _ => .sequence
  | .object _ => .mapping

/-- What a YAML tree is found to be. -/
def Yaml.found : Yaml → Found
  | .null => .null
  | .bool b => .bool b
  | .number n => .ofNumber n
  | .string s => .string s
  | .sequence _ => .sequence
  | .mapping _ => .mapping
  | .tagged _ _ => .tagged

/-- What was found, in words. -/
def Found.describe (dialect : Dialect) : Found → String
  | null => dialect.nullName
  | bool b => "boolean `" ++ (if b then "true" else "false") ++ "`"
  | integer n => "integer `" ++ toString n ++ "`"
  | double x => "floating point `" ++ dialect.layout.write x ++ "`"
  | string s => "string " ++ Text.quoted s
  | sequence => "sequence"
  | mapping => "map"
  | tagged => "enum"

/-- What was wanted, in words. -/
def Wanted.describe : Wanted → String
  | filters => "a map of filter keys to scalar values"
  | anyJson => "any valid JSON value"
  | string => "a string"
  | memberName => "a string key"
  | count => "u64"
  | request => "struct FinderParams"
  | fieldName => "field identifier"

/-- The refusal in words. -/
def Refusal.message (dialect : Dialect) : Refusal → String
  | wrongType found wanted =>
    "invalid type: " ++ found.describe dialect ++ ", expected " ++ wanted.describe
  | wrongValue n wanted =>
    "invalid value: integer `" ++ toString n ++ "`, expected " ++ wanted.describe
  | tooManyItems count =>
    "invalid length " ++ toString count ++ ", expected fewer elements in array"
  | repeatedField name => "duplicate field `" ++ name ++ "`"
  | unusable error => error.message

/-- A count is a whole number from zero on. -/
def Found.toCount : Found → Except Refusal UInt64
  | integer n =>
    if 0 ≤ n then .ok (UInt64.ofNat n.toNat) else .error (.wrongValue n .count)
  | found => .error (.wrongType found .count)

/-- A count that may be left out by a null. -/
def Found.toOptionalCount : Found → Except Refusal (Option UInt64)
  | null => .ok none
  | found => found.toCount.map some

end KeyedFilter
