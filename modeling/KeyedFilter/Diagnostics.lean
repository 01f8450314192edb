import KeyedFilter.Memory
import KeyedFilter.Number.Shortest
import KeyedFilter.Text.Quoted

/-!
# Diagnostics

Queries and catalogs as text for people who look for a mistake. A structure is written with
its name and its fields, a list in brackets, a text in quotes.
-/

namespace KeyedFilter

namespace Diagnostics

/-- Texts in brackets. -/
def listText (items : List String) : String :=
  "[" ++ ", ".intercalate items ++ "]"

/-- A structure with its fields. -/
def structText (name : String) (fields : List (String × String)) : String :=
  name ++ " \x7b " ++ ", ".intercalate (fields.map fun (field, value) => field ++ ": " ++ value) ++
    " \x7d"

/-- A constructor with its arguments. -/
def callText (name : String) (arguments : List String) : String :=
  name ++ "(" ++ ", ".intercalate arguments ++ ")"

/-- An optional value. -/
def optionText (value : Option String) : String :=
  value.elim "None" fun text => callText "Some" [text]

/-- A truth value. -/
def boolText (b : Bool) : String :=
  if b then "true" else "false"

/-- A word. -/
def wordText (n : UInt64) : String :=
  toString n.toNat

end Diagnostics

open Diagnostics

/-- The full name of a relation. -/
def Relation.describe : Relation → String
  | equals => "Equals"
  | startsWith => "StartsWith"
  | endsWith => "EndsWith"
  | contains => "Contains"
  | less => "LessThan"
  | lessOrEqual => "LessOrEqual"
  | greater => "GreaterThan"
  | greaterOrEqual => "GreaterOrEqual"
  | blank => "Blank"

/-- A number with its representation. -/
def Number.describe : Number → String
  | .signed n => callText "I64" [toString n.toInt]
  | .unsigned n => callText "U64" [toString n.toNat]
  | .double x => callText "F64" [DecimalLayout.diagnostic.write x]

/-- A scalar with its type. -/
def Scalar.describe : Scalar → String
  | .null => "Null"
  | .bool b => callText "Bool" [boolText b]
  | .number n => callText "Number" [n.describe]
  | .string s => callText "String" [Text.quoted s]
  | .timestamp t => callText "Timestamp" [callText "Timestamp" [toString t.millis.toInt]]

/-- A predicate by its parts. -/
def Predicate.describe (p : Predicate) : String :=
  structText "Predicate" [("kind", p.relation.describe), ("negated", boolText p.negated)]

/-- A constraint by its parts. -/
def Constraint.describe (c : Constraint) : String :=
  structText "Constraint"
    [("field", Text.quoted c.field), ("predicate", c.predicate.describe),
     ("value", c.operand.describe)]

/-- A window as a pair. -/
def Window.describe (window : Window) : String :=
  callText "" [wordText window.offset, wordText window.limit]

/-- A query on entities in memory; of its tests only the number is known. -/
def Memory.Query.describe {ε : Type} (query : Memory.Query ε) : String :=
  structText "MemoryQuery"
    [("constraints", listText (query.constraints.map Constraint.describe)),
     ("filters", toString query.tests.length),
     ("window", optionText (query.window.map Window.describe))]

/-- Page sizes by their parts. -/
def Paging.describe (paging : Paging) : String :=
  structText "Paging"
    [("per_page", wordText paging.perPage), ("min_per_page", wordText paging.minPerPage),
     ("max_per_page", wordText paging.maxPerPage)]

/-- The names of the registered filters. -/
def NamedFilters.describe {Q : Type} (filters : NamedFilters Q) : String :=
  listText (filters.keys.map Text.quoted)

/-- A catalog, its source being called by a name. -/
def Catalog.describe {σ Q ε : Type} (catalog : Catalog σ Q ε) (source : String) : String :=
  structText "FinderConfig"
    [("adapter", source), ("fields", listText (catalog.fields.map Text.quoted)),
     ("filters", NamedFilters.describe catalog.named),
     ("paging", optionText (catalog.paging.map Paging.describe))]

end KeyedFilter
