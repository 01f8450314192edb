import KeyedFilter.Text.Case
import KeyedFilter.Text.Identifier

/-!
# Names of constants

Every filter name of a schema has a constant whose name is the filter name in upper case, with an
underscore where a new word starts: `createdAt` and `created-at` both give `CREATED_AT`.
-/

namespace KeyedFilter.Schema

/-- The characters of a constant's name, `afterLower` telling whether a lower-case letter stands
before them. A word starts at an upper-case letter behind a lower-case one. -/
def constantCharacters (afterLower : Bool) : List Char → List Char
  | [] => []
  | c :: rest =>
    if Text.isUpperCase c then
      (if afterLower then ['_', c] else [c]) ++ constantCharacters false rest
    else if c == '_' || c == '-' then '_' :: constantCharacters false rest
    else Text.upperCase c ++ constantCharacters (Text.isLowerCase c) rest

/-- The name of the constant for a filter name. -/
def constantName (name : String) : String :=
  String.ofList (constantCharacters false name.toList)

end KeyedFilter.Schema
