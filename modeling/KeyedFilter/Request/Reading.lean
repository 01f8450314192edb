import KeyedFilter.Request.FilterReading

/-!
# Reading requests

A request is read from a mapping with the fields `filter`, `page` and `per_page`, or in JSON from an
array of the three. Each may be missing; other fields do not matter. The entries are taken in order
and the first one that cannot be used decides about the refusal.

* `Request.decodeJson`, `Request.decodeYaml`.
-/

namespace KeyedFilter

/-- The fields of a request. -/
inductive RequestField where
  | filter
  | page
  | perPage
  deriving DecidableEq, Repr

namespace RequestField

/-- The name of a field in documents. -/
def name : RequestField → String
  | filter => "filter"
  | page => "page"
  | perPage => "per_page"

/-- The field with a name. -/
def named? : String → Option RequestField
  | "filter" => some filter
  | "page" => some page
  | "per_page" => some perPage
  | _ => none

/-- The fields in the order of an array. -/
def all : List RequestField :=
  [filter, page, perPage]

end RequestField

/-- The fields of a request that have been read so far. -/
structure Draft where
  filters : Option Filters := none
  page : Option (Option UInt64) := none
  perPage : Option (Option UInt64) := none

namespace Draft

/-- Has the field been read? -/
def has (draft : Draft) : RequestField → Bool
  | .filter => draft.filters.isSome
  | .page => draft.page.isSome
  | .perPage => draft.perPage.isSome

/-- Nothing may be read twice. -/
def checkNew (draft : Draft) (field : RequestField) : Except Refusal Unit :=
  if draft.has field then .error (.repeatedField field.name) else .ok ()

/-- The request, with defaults for the fields that are missing. -/
def finish (draft : Draft) : Request :=
  ⟨draft.filters.getD ∅, draft.page.getD none, draft.perPage.getD none⟩

/-- Puts in the value of a field, read in the way that the field asks for. -/
def set {m : Type → Type} [Monad m] (draft : Draft) (readFilters : m Filters)
    (readCount : m (Option UInt64)) : RequestField → m Draft
  | .filter => do return { draft with filters := some (← readFilters) }
  | .page => do return { draft with page := some (← readCount) }
  | .perPage => do return { draft with perPage := some (← readCount) }

end Draft

namespace Request

/-- Takes the value of a field from a JSON tree. -/
def decodeJsonField (draft : Draft) (field : RequestField) (json : Json) :
    Except Refusal Draft := do
  draft.checkNew field
  draft.set (Filters.decodeJson json) json.found.toOptionalCount field

/-- Takes the next member of an object. -/
def decodeJsonMember (draft : Draft) (member : String × Json) : Except Refusal Draft :=
  match RequestField.named? member.1 with
  | some field => decodeJsonField draft field member.2
  | none => .ok draft

/-- A request from a JSON tree. -/
def decodeJson : Json → Except Refusal Request
  | .object members => (members.foldlM decodeJsonMember {}).map Draft.finish
  | .array items => do
    let draft ← (RequestField.all.zip items).foldlM
      (fun draft (field, item) => decodeJsonField draft field item) {}
    if items.length ≤ RequestField.all.length then return draft.finish
    else .error (.tooManyItems items.length)
  | json => .error (.wrongType json.found .request)

/-- A count from a YAML tree. Only a null without tags leaves it out. -/
def decodeYamlCount : Yaml → Except Refusal (Option UInt64)
  | .null => .ok none
  | yaml => yaml.untagged.found.toCount.map some

/-- Takes the next entry of a mapping. -/
def decodeYamlEntry (draft : Draft) (entry : Yaml × Yaml) : Except Refusal Draft := do
  let name ← entry.1.keyText .fieldName
  match RequestField.named? name with
  | some field =>
    draft.checkNew field
    draft.set (Filters.decodeYaml entry.2) (decodeYamlCount entry.2) field
  | none => return draft

/-- A request from a YAML tree. A null asks for everything. -/
def decodeYaml (yaml : Yaml) : Except Refusal Request :=
  match yaml.untagged with
  | .null => .ok {}
  | .mapping entries => (entries.foldlM decodeYamlEntry {}).map Draft.finish
  | other => .error (.wrongType other.found .request)

end Request

end KeyedFilter
