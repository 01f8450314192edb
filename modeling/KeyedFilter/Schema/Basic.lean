import KeyedFilter.Schema.Constant

/-!
# Schemas

A schema says which fields of a record type are open to filters, under which names, and how they are
read. It is derived from the declaration of the type, where a field is opened by a `filter`
attribute: `#[filter(Number, rename = "cost")]`.

* `Declaration`, `FieldDeclaration`, `Attribute`: what is declared.
* `Schema.derive`: the schema of a declaration, or what is wrong with it.
-/

namespace KeyedFilter

/-- A literal on the right of an equals sign. -/
inductive Literal where
  | text (s : String)
  | other
  deriving DecidableEq, Repr

/-- An argument of an attribute. A path is the list of its segments; where it starts with a double
colon, its first segment is empty. -/
inductive Argument where
  /-- A path alone, such as `String` or `a::b`. -/
  | path (segments : List String)
  /-- A path with a value, such as `rename = "x"`. -/
  | assign (segments : List String) (value : Literal)
  /-- A path with arguments, such as `rename(x)`. -/
  | call (segments : List String)
  deriving DecidableEq, Repr

/-- What stands behind the name of an attribute. What is in parentheses is read before any of it is
judged, and whoever reads it has a message of their own where it is no list of arguments. -/
inductive AttributeBody where
  /-- The name alone: `#[filter]`. -/
  | bare
  /-- An equals sign and a value: `#[filter = "x"]`. -/
  | value
  /-- A list of arguments: `#[filter(Number, skip)]`. -/
  | list (arguments : List Argument)
  /-- Something else in parentheses, such as `#[filter("x")]` or `#[filter(Number Bool)]`. -/
  | unreadable (message : String)
  deriving DecidableEq, Repr

/-- An attribute of a field. -/
structure Attribute where
  name : String
  body : AttributeBody
  deriving DecidableEq, Repr

/-- A named field with its attributes in order. -/
structure FieldDeclaration where
  name : String
  attributes : List Attribute
  deriving DecidableEq, Repr

/-- A declared type. Only record types with named fields have a schema. -/
inductive Declaration where
  | record (fields : List FieldDeclaration)
  | unnamedRecord
  | other
  deriving DecidableEq, Repr

/-- The types that a field can be opened as. -/
inductive FieldType where
  | string
  | number
  | bool
  | timestamp
  deriving DecidableEq, Repr

/-- The type with a name. -/
def FieldType.named? : String → Option FieldType
  | "String" => some string
  | "string" => some string
  | "Number" => some number
  | "number" => some number
  | "Bool" => some bool
  | "boolean" => some bool
  | "Timestamp" => some timestamp
  | "timestamp" => some timestamp
  | _ => none

/-- How a field is read: as the scalar that it is, or as a point in time. -/
inductive FieldReading where
  | value
  | timestamp
  deriving DecidableEq, Repr

/-- A point in time is read as one; everything else is read as it is. -/
def FieldType.reading : FieldType → FieldReading
  | .timestamp => .timestamp
  | _ => .value

/-- The causes for which a declaration has no schema. -/
inductive SchemaError where
  | unnamedFields
  | notRecord
  | missingArguments
  | missingParentheses
  /-- What is in the parentheses is no list of arguments. -/
  | unreadableArguments (message : String)
  | unknownType (name : String)
  | pathAsType
  | renameNotText
  | unknownArgument
  | duplicateName (name : String)
  /-- The constant of a filter name would not be an identifier. -/
  | unnameableConstant (name : String)
  deriving DecidableEq, Repr

/-- The error in words; for a constant without a name there are none. -/
def SchemaError.message? : SchemaError → Option String
  | unnamedFields => some "Filterable can only be derived for structs with named fields"
  | notRecord => some "Filterable can only be derived for structs"
  | missingArguments => some "expected attribute arguments in parentheses: #[filter(...)]"
  | missingParentheses => some "expected parentheses: #[filter(...)]"
  | unreadableArguments message => some message
  | unknownType name =>
    some ("unknown filter type: '" ++ name ++
      "'. Expected one of: String, Number, Bool, Timestamp")
  | pathAsType => some "expected filter type: String, Number, Bool, Timestamp, or skip"
  | renameNotText => some "rename must be a string literal"
  | unknownArgument =>
    some ("unknown filter attribute. Expected: String, Number, Bool, Timestamp, skip, " ++
      "or rename = \"...\"")
  | duplicateName name => some ("duplicate filter field name '" ++ name ++ "'")
  | unnameableConstant _ => none

/-- The arguments of a `filter` attribute. -/
def Attribute.arguments (filter : Attribute) : Except SchemaError (List Argument) :=
  match filter.body with
  | .bare => .error .missingArguments
  | .value => .error .missingParentheses
  | .list arguments => .ok arguments
  | .unreadable message => .error (.unreadableArguments message)

/-- What a `filter` attribute asks for. -/
structure FilterOptions where
  type : Option FieldType := none
  skip : Bool := false
  rename : Option String := none
  deriving DecidableEq, Repr

namespace FilterOptions

/-- Takes the next argument of the attribute. What is said twice counts the last time. -/
def apply (options : FilterOptions) : Argument → Except SchemaError FilterOptions
  | .path ["skip"] => .ok { options with skip := true }
  | .path [name] =>
    match FieldType.named? name with
    | some type => .ok { options with type := some type }
    | none => .error (.unknownType name)
  | .path _ => .error .pathAsType
  | .assign ["rename"] (.text s) => .ok { options with rename := some s }
  | .assign ["rename"] .other => .error .renameNotText
  | .assign _ _ => .error .unknownArgument
  | .call _ => .error .unknownArgument

/-- The options of a field. Only its first `filter` attribute counts. -/
def ofAttributes (attributes : List Attribute) : Except SchemaError FilterOptions :=
  match attributes.find? (·.name == "filter") with
  | none => .ok {}
  | some filter => do
    let arguments ← filter.arguments
    arguments.foldlM apply {}

/-- The type as which the field is open to filters, unless it is not open. -/
def openType? (options : FilterOptions) : Option FieldType :=
  if options.skip then none else options.type

end FilterOptions

/-- A field that is open to filters. -/
structure Column where
  /-- The name in filter keys. -/
  name : String
  /-- The name of the constant that holds it. -/
  constant : String
  /-- The field of the record. -/
  source : String
  reading : FieldReading
  deriving DecidableEq, Repr

/-- The open fields of a record type, in the order of their declaration. -/
abbrev Schema := List Column

namespace Schema

/-- The names in filter keys. -/
def names (schema : Schema) : List String :=
  schema.map (·.name)

/-- The column with a name. -/
def column? (schema : Schema) (name : String) : Option Column :=
  schema.find? (·.name == name)

/-- Adds the next field of a declaration, if it is open to filters. -/
def addField (schema : Schema) (field : FieldDeclaration) : Except SchemaError Schema := do
  let options ← FilterOptions.ofAttributes field.attributes
  match options.openType? with
  | none => return schema
  | some type =>
    let name := options.rename.getD field.name
    if schema.names.contains name then .error (.duplicateName name)
    else if !Text.isIdentifier (constantName name) then .error (.unnameableConstant name)
    else return schema ++ [⟨name, constantName name, field.name, type.reading⟩]

/-- The schema of a declaration. -/
def derive : Declaration → Except SchemaError Schema
  | .record fields => fields.foldlM addField []
  | .unnamedRecord => .error .unnamedFields
  | .other => .error .notRecord

end Schema

end KeyedFilter
