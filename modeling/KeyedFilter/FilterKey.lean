import KeyedFilter.Error
import KeyedFilter.Text.Pattern

/-!
# Filter keys

A filter key is a field name and a predicate token with an underscore between them: `price_gte`.
Field names may hold underscores and tokens themselves, so a key can be split in two ways; the split
with the longest token that leaves a declared field wins.

* `FilterKey.splits`: all ways to split a text, longest token first.
* `FilterKey.parse`: the one that names a declared field.
-/

namespace KeyedFilter

/-- A field together with the predicate that is asked of it. -/
structure FilterKey where
  field : String
  predicate : Predicate
  deriving DecidableEq, Repr

namespace FilterKey

/-- The key as text. -/
def text (key : FilterKey) : String :=
  key.field ++ "_" ++ key.predicate.token

/-- The field name before a token and its underscore, if the text ends so and the name is not
empty. -/
def fieldBefore? (text token : String) : Option String :=
  match Text.dropEnding? text.toList ('_' :: token.toList) with
  | some (c :: rest) => some (String.ofList (c :: rest))
  | _ => none

/-- The ways to split a text into a field and a predicate, longest token first. -/
def splits (text : String) : List FilterKey :=
  Predicate.table.filterMap fun (token, predicate) =>
    (fieldBefore? text token).map fun field => ⟨field, predicate⟩

/-- The split that names a declared field. Without one, the longest token tells which field was
meant. -/
def parse (fields : List String) (text : String) : Except FilterError FilterKey :=
  match (splits text).find? fun key => fields.contains key.field with
  | some key => .ok key
  | none =>
    match (splits text).head? with
    | some key => .error (.unknownField key.field text)
    | none => .error (.invalidKey text)

end FilterKey

end KeyedFilter
