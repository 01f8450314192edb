import KeyedFilter.Proofs.Schema.Derivation

/-!
# What attributes ask for

The attributes of a field are read from left to right: the first `filter` attribute is looked up, its
arguments are taken one by one, and the first one that is wrong ends the reading. What comes out can
be said without this order. If there is a list of arguments and none of them is wrong, the field is
exposed as the last type that is listed, unless `skip` is among the arguments wherever it stands, and
its name is the last new name that is given.

* `FieldType.names`: the names of a type.
* `Argument.type?`, `Argument.fault?`, `Argument.rename?`: what an argument says by itself.
* `FilterOptions.foldlM_apply`: what a list of arguments says.
* `Attribute.fault?`: what is wrong with an attribute.
* `FieldDeclaration.fault?`, `exposedType?`, `exposedName`: what a field says of itself.
* `FieldDeclaration.column?_eq`: that is how it is read.
-/

namespace KeyedFilter

/-! ### Types -/

namespace FieldType

/-- The types that a field can be opened as. -/
def all : List FieldType :=
  [string, number, bool, timestamp]

/-- The names of a type. -/
def names : FieldType → List String
  | string => ["String", "string"]
  | number => ["Number", "number"]
  | bool => ["Bool", "boolean"]
  | timestamp => ["Timestamp", "timestamp"]

/-- A type is read by any of its names. -/
theorem named?_eq_find? (name : String) : named? name = all.find? (name ∈ ·.names) := by
  fun_cases named? name <;> simp_all [all, names]

end FieldType

/-! ### Arguments -/

namespace Argument

/-- The type that an argument lists. -/
def type? : Argument → Option FieldType
  | .path [name] => FieldType.all.find? (name ∈ ·.names)
  | _ => none

/-- What is wrong with an argument. -/
def fault? : Argument → Option SchemaError
  | .path ["skip"] => none
  | .path [name] => if (type? (.path [name])).isSome then none else some (.unknownType name)
  | .path _ => some .pathAsType
  | .assign ["rename"] (.text _) => none
  | .assign ["rename"] .other => some .renameNotText
  | .assign _ _ => some .unknownArgument
  | .call _ => some .unknownArgument

/-- The new name that an argument gives. -/
def rename? : Argument → Option String
  | .assign ["rename"] (.text name) => some name
  | _ => none

/-- The argument that keeps a field closed. -/
def skip : Argument := .path ["skip"]

end Argument

namespace FilterOptions

/-- The options with what an argument says. -/
def withArgument (options : FilterOptions) (argument : Argument) : FilterOptions where
  type := argument.type?.or options.type
  skip := options.skip || decide (.skip = argument)
  rename := argument.rename?.or options.rename

/-- An argument that is not wrong has its say, and one that is wrong does not. -/
theorem apply_eq (options : FilterOptions) (argument : Argument) :
    options.apply argument =
      argument.fault?.elim (.ok (options.withArgument argument)) .error := by
  have hskip : Argument.type? (.path ["skip"]) = none := rfl
  unfold withArgument
  fun_cases apply options argument with
  | case1 => simp [Argument.fault?, Argument.rename?, Argument.skip, hskip]
  | case2 name hname type htype =>
    have hne : ¬ Argument.skip = .path [name] := by simpa [Argument.skip, eq_comm] using hname
    rw [FieldType.named?_eq_find?] at htype
    simp [Argument.fault?, Argument.type?, Argument.rename?, htype, hne]
  | case3 name hname htype =>
    rw [FieldType.named?_eq_find?] at htype
    simp [Argument.fault?, Argument.type?, htype]
  | case4 segments hskip hname => simp [Argument.fault?]
  | case5 name => simp [Argument.fault?, Argument.type?, Argument.rename?, Argument.skip]
  | case6 => simp [Argument.fault?]
  | case7 segments value htext hother => simp [Argument.fault?]
  | case8 segments => simp [Argument.fault?]

/-- **What a list of arguments says.** The first wrong argument ends the reading. If there is none,
the last type and the last new name count, and one `skip` is enough. -/
theorem foldlM_apply (options : FilterOptions) (arguments : List Argument) :
    arguments.foldlM apply options =
      (arguments.findSome? Argument.fault?).elim (.ok {
        type := (arguments.filterMap Argument.type?).getLast?.or options.type
        skip := options.skip || decide (.skip ∈ arguments)
        rename := (arguments.filterMap Argument.rename?).getLast?.or options.rename }) .error := by
  induction arguments generalizing options with
  | nil => simp [pure, Except.pure]
  | cons argument rest ih =>
    rw [List.foldlM_cons, apply_eq]
    cases hfault : argument.fault? with
    | some e => simp [hfault, bind, Except.bind]
    | none =>
      have hskip : (options.skip || decide (.skip = argument) || decide (.skip ∈ rest)) =
          (options.skip || decide (.skip ∈ argument :: rest)) := by
        simp only [Bool.or_assoc, List.mem_cons, Bool.decide_or]
      simp only [Option.elim_none, bind, Except.bind, ih, List.findSome?_cons, hfault, withArgument,
        getLast?_filterMap_cons, Option.or_assoc, hskip]

end FilterOptions

/-! ### Attributes -/

namespace Attribute

/-- The arguments that an attribute lists. -/
def listed (filter : Attribute) : List Argument :=
  match filter.body with
  | .list arguments => arguments
  | _ => []

/-- What is wrong with an attribute: it has no list of arguments, or one of them is wrong. -/
def fault? (filter : Attribute) : Option SchemaError :=
  match filter.body with
  | .bare => some .missingArguments
  | .value => some .missingParentheses
  | .unreadable message => some (.unreadableArguments message)
  | .list arguments => arguments.findSome? Argument.fault?

end Attribute

/-! ### Fields -/

namespace FieldDeclaration

variable (field : FieldDeclaration)

/-- The first `filter` attribute of a field. -/
def filter? : Option Attribute :=
  field.attributes.find? (·.name == "filter")

/-- The arguments of that attribute. -/
def arguments : List Argument :=
  field.filter?.elim [] (·.listed)

/-- What is wrong with that attribute. -/
def fault? : Option SchemaError :=
  field.filter?.bind (·.fault?)

/-- The type as which a field is exposed: the last one listed, but none where there is a `skip`. -/
def exposedType? : Option FieldType :=
  if .skip ∈ field.arguments then none else (field.arguments.filterMap Argument.type?).getLast?

/-- The name under which it would be: the last new name, else its own. -/
def exposedName : String :=
  (field.arguments.filterMap Argument.rename?).getLast?.getD field.name

/-- The column as which a field is exposed. -/
def exposedColumn? : Option Column :=
  field.exposedType?.map fun type =>
    ⟨field.exposedName, Schema.constantName field.exposedName, field.name, type.reading⟩

/-- **A field is read as what it says of itself**, if there is nothing wrong with it. -/
theorem column?_eq :
    field.column? = field.fault?.elim (.ok field.exposedColumn?) .error := by
  unfold column? FilterOptions.ofAttributes fault? exposedColumn? exposedType? exposedName arguments
  rw [← filter?]
  cases field.filter? with
  | none => rfl
  | some filter =>
    obtain ⟨name, body⟩ := filter
    cases body with
    | bare => rfl
    | value => rfl
    | unreadable message => rfl
    | list arguments =>
      simp only [Option.bind_some, Option.elim_some, Attribute.arguments, Attribute.fault?,
        Attribute.listed, bind, Except.bind, FilterOptions.foldlM_apply, Option.or_none,
        Bool.false_or]
      cases arguments.findSome? Argument.fault? with
      | some e => rfl
      | none => simp [Except.map, FilterOptions.openType?]

end FieldDeclaration

end KeyedFilter
