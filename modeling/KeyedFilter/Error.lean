import KeyedFilter.Predicate.Basic
import KeyedFilter.Scalar.Basic

/-!
# Filter errors

What can be wrong with a filter or with the query that it leads to, and how that is said.
-/

namespace KeyedFilter

/-- The causes of failure of a request. -/
inductive FilterError where
  /-- No predicate is registered under the token. -/
  | unknownPredicate (token : String)
  /-- The key does not end with a token behind a field name. -/
  | invalidKey (key : String)
  /-- The key ends with a token, but no field of that name is open to filters. -/
  | unknownField (field key : String)
  /-- The relation is for other types than the one it was given. -/
  | typeMismatch (field : String) (relation : Relation) (expected : List ScalarType)
      (actual : ScalarType)
  /-- The parameters do not have the right form. -/
  | invalidParams (text : String)
  /-- The source of the entities failed. -/
  | execution (text : String)
  deriving DecidableEq, Repr

/-- The types that would have been right: `a, b or c`. -/
def alternatives : List ScalarType → String
  | [] => ""
  | [a] => a.name
  | [a, b] => a.name ++ " or " ++ b.name
  | a :: rest => a.name ++ ", " ++ alternatives rest

namespace FilterError

/-- The error in words. -/
def message : FilterError → String
  | unknownPredicate token => "unknown predicate '" ++ token ++ "'"
  | invalidKey key => "invalid filter key '" ++ key ++ "': no predicate suffix"
  | unknownField field key => "unknown field '" ++ field ++ "' in filter key '" ++ key ++ "'"
  | typeMismatch field relation expected actual =>
    "type mismatch on '" ++ field ++ "' (" ++ relation.token ++ "): expected " ++
      alternatives expected ++ ", got " ++ actual.name
  | invalidParams text => "invalid filter parameters: " ++ text
  | execution text => "query execution failed: " ++ text

end FilterError

end KeyedFilter
