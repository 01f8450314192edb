import KeyedFilter.Request.Basic
import KeyedFilter.Request.Refusal

/-!
# Reading filters

Filters from JSON and YAML trees. For each kind of tree there are two readers: a plain one, whose
errors are filter errors, and one for documents, whose refusals say what was found. For YAML they
differ in more: the plain reader takes a scalar out of its tags, the other makes JSON of it first,
which has no tags and no infinities.

* `Scalar.ofJson`, `Scalar.ofYaml`: operands.
* `Filters.ofJson`, `Filters.ofYaml`: the plain readers.
* `Filters.decodeMembers`, `Filters.decodeJson`, `Filters.decodeYaml`: the readers for documents.
-/

namespace KeyedFilter

/-- A JSON scalar as an operand. -/
def Scalar.ofJson : Json → Except FilterError Scalar
  | .null => .ok .null
  | .bool b => .ok (.bool b)
  | .number n => .ok (.number n.normalize)
  | .string s => .ok (.string s)
  | json => .error (.invalidParams ("filter values must be scalars, got " ++ json.compact))

/-- A YAML scalar as an operand, tags aside. -/
def Scalar.ofYaml (yaml : Yaml) : Except FilterError Scalar :=
  match yaml.untagged with
  | .null => .ok .null
  | .bool b => .ok (.bool b)
  | .number n => .ok (.number n.normalize)
  | .string s => .ok (.string s)
  | _ => .error (.invalidParams "filter values must be scalars")

namespace Filters

/-- The filters with the operand of a member put in. -/
def insertMember (filters : Filters) (member : String × Json) : Except FilterError Filters :=
  (Scalar.ofJson member.2).map (filters.insert member.1)

/-- Filters from a JSON object. -/
def ofJson : Json → Except FilterError Filters
  | .object members => members.foldlM insertMember ∅
  | json => .error (.invalidParams ("expected an object of filters, got " ++ json.compact))

/-- The filters with the operand of an entry put in. -/
def insertEntry (filters : Filters) (entry : Yaml × Yaml) : Except FilterError Filters :=
  match entry.1.text? with
  | none => .error (.invalidParams "filter keys must be strings")
  | some key => (Scalar.ofYaml entry.2).map (filters.insert key)

/-- Filters from a YAML mapping. -/
def ofYaml (yaml : Yaml) : Except FilterError Filters :=
  match yaml.entries? with
  | some entries => entries.foldlM insertEntry ∅
  | none => .error (.invalidParams "expected a mapping of filters")

/-- Takes the next member of a document. -/
def decodeMember (filters : Filters) (member : String × Json) : Except Refusal Filters :=
  (filters.insertMember member).mapError .unusable

/-- Filters from members in the order of a document, in which a key may be repeated. -/
def decodeMembers (members : List (String × Json)) : Except Refusal Filters :=
  members.foldlM decodeMember ∅

/-- Filters from a JSON tree in a document. -/
def decodeJson : Json → Except Refusal Filters
  | .object members => decodeMembers members
  | json => .error (.wrongType json.found .filters)

end Filters

/-- A key of a YAML mapping as a text, tags aside. -/
def Yaml.keyText (key : Yaml) (wanted : Wanted) : Except Refusal String :=
  match key.untagged with
  | .string s => .ok s
  | other => .error (.wrongType other.found wanted)

/-- The number in JSON, which has no NaN and no infinities. -/
def Json.ofNumber (n : Number) : Json :=
  match n with
  | .double x => if x.isNaN || x.isInfinite then .null else .number n
  | _ => .number n

mutual

/-- A YAML tree without tags as a JSON tree. -/
def Yaml.toJson : Yaml → Except Refusal Json
  | .null => .ok .null
  | .bool b => .ok (.bool b)
  | .number n => .ok (.ofNumber n)
  | .string s => .ok (.string s)
  | .sequence items => (Yaml.itemsToJson items).map .array
  | .mapping entries =>
    (Yaml.entriesToJson .memberName entries).map fun members => .object (Json.sortMembers members)
  | .tagged _ _ => .error (.wrongType .tagged .anyJson)

/-- The items as JSON trees. -/
def Yaml.itemsToJson : List Yaml → Except Refusal (List Json)
  | [] => .ok []
  | item :: rest => do
    let first ← Yaml.toJson item
    let others ← Yaml.itemsToJson rest
    return first :: others

/-- The entries as members. Only the keys may be tagged. `wanted` is what the first key should be;
the keys behind it are asked for as plain strings. -/
def Yaml.entriesToJson (wanted : Wanted) :
    List (Yaml × Yaml) → Except Refusal (List (String × Json))
  | [] => .ok []
  | (key, value) :: rest => do
    let key ← key.keyText wanted
    let value ← Yaml.toJson value
    let others ← Yaml.entriesToJson .string rest
    return (key, value) :: others

end

namespace Filters

/-- Takes the next entry of a document. -/
def decodeEntry (filters : Filters) (entry : Yaml × Yaml) : Except Refusal Filters := do
  let key ← entry.1.keyText .string
  let value ← entry.2.toJson
  filters.decodeMember (key, value)

/-- Filters from a YAML tree in a document. A null has no filters. -/
def decodeYaml (yaml : Yaml) : Except Refusal Filters :=
  match yaml.untagged with
  | .null => .ok ∅
  | .mapping entries => entries.foldlM decodeEntry ∅
  | other => .error (.wrongType other.found .filters)

end Filters

end KeyedFilter
