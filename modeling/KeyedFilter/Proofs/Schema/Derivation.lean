import Mathlib.Data.List.Nodup
import Mathlib.Data.List.ReduceOption
import KeyedFilter.Schema.Basic
import KeyedFilter.Proofs.Schema.Constant
import KeyedFilter.Proofs.Traversal

/-!
# Deriving schemas

The fields of a declaration are taken in their order. Each is read on its own, from its attributes,
and the column as which it is opened is added to the schema, unless its name is taken or its constant
would have no name.

* `FieldDeclaration.column?`, `Schema.addField_eq`: the reading of a field, and the step of a schema.
* `Schema.addField_eq_ok_iff`, `Schema.addField_eq_error_iff`: both ends of a step.
* `Schema.derive_record_eq_ok_iff`, `Schema.derive_record_eq_error_iff`: both ends of a derivation.
* `Schema.constants_nodup_iff`: when the constants differ as the names do.
* `Schema.answered_iff`: when there is a schema or an error in words.
-/

namespace KeyedFilter

namespace FieldDeclaration

variable {field : FieldDeclaration} {column : Column} {e : SchemaError}

/-- The column as which a field is opened, if it is. -/
def column? (field : FieldDeclaration) : Except SchemaError (Option Column) :=
  (FilterOptions.ofAttributes field.attributes).map fun options =>
    options.openType?.map fun type =>
      let name := options.rename.getD field.name
      ⟨name, Schema.constantName name, field.name, type.reading⟩

theorem column?_eq_some_iff :
    field.column? = .ok (some column) ↔ ∃ options type,
      FilterOptions.ofAttributes field.attributes = .ok options ∧ options.openType? = some type ∧
      ⟨options.rename.getD field.name, Schema.constantName (options.rename.getD field.name),
        field.name, type.reading⟩ = column := by
  rw [column?]
  cases FilterOptions.ofAttributes field.attributes with
  | error e => simp [Except.map]
  | ok options => simp [Except.map]

theorem constant_of_column? (h : field.column? = .ok (some column)) :
    column.constant = Schema.constantName column.name := by
  obtain ⟨options, type, -, -, rfl⟩ := column?_eq_some_iff.1 h
  rfl

theorem column?_eq_error_iff :
    field.column? = .error e ↔ FilterOptions.ofAttributes field.attributes = .error e := by
  rw [column?]
  cases FilterOptions.ofAttributes field.attributes with
  | error e => simp [Except.map]
  | ok options => simp [Except.map]

end FieldDeclaration

namespace Schema

variable {schema result : Schema} {field : FieldDeclaration} {fields : List FieldDeclaration}
variable {column : Column} {e : SchemaError}

/-! ### One field -/

/-- Adds a column whose name is not taken and whose constant has a name. -/
def addColumn (schema : Schema) (column : Column) : Except SchemaError Schema :=
  if column.name ∈ schema.names then .error (.duplicateName column.name)
  else if isNameable column.name then .ok (schema ++ [column])
  else .error (.unnameableConstant column.name)

/-- A field is read, and its column added. -/
theorem addField_eq (schema : Schema) (field : FieldDeclaration) :
    schema.addField field =
      field.column? >>= fun column? => column?.elim (.ok schema) schema.addColumn := by
  rw [addField, FieldDeclaration.column?]
  cases FilterOptions.ofAttributes field.attributes with
  | error e => rfl
  | ok options =>
    cases htype : options.openType? with
    | none =>
      simp only [bind, Except.bind, Except.map, htype]
      rfl
    | some type =>
      simp only [bind, Except.bind, Except.map, htype, Option.map_some, Option.elim_some,
        addColumn, List.contains_iff_mem, isIdentifier_constantName]
      cases isNameable (options.rename.getD field.name) <;> rfl

theorem addColumn_eq_ok_iff :
    schema.addColumn column = .ok result ↔ column.name ∉ schema.names ∧
      isNameable column.name = true ∧ result = schema ++ [column] := by
  rw [addColumn]
  by_cases hname : column.name ∈ schema.names
  · rw [if_pos hname]
    exact ⟨nofun, fun h => absurd hname h.1⟩
  · rw [if_neg hname]
    cases isNameable column.name with
    | true =>
      exact ⟨fun h => ⟨hname, rfl, (Except.ok.inj h).symm⟩, fun h => congrArg Except.ok h.2.2.symm⟩
    | false => exact ⟨nofun, fun h => nomatch h.2.1⟩

theorem addColumn_eq_error_iff :
    schema.addColumn column = .error e ↔
      (column.name ∈ schema.names ∧ e = .duplicateName column.name) ∨
      (column.name ∉ schema.names ∧ isNameable column.name = false ∧
        e = .unnameableConstant column.name) := by
  rw [addColumn]
  by_cases hname : column.name ∈ schema.names
  · rw [if_pos hname]
    exact ⟨fun h => .inl ⟨hname, (Except.error.inj h).symm⟩,
      fun h => h.elim (fun h => congrArg Except.error h.2.symm) fun h => absurd hname h.1⟩
  · rw [if_neg hname]
    cases isNameable column.name with
    | true => exact ⟨nofun, fun h => h.elim (fun h => absurd h.1 hname) fun h => nomatch h.2.1⟩
    | false =>
      exact ⟨fun h => .inr ⟨hname, rfl, (Except.error.inj h).symm⟩,
        fun h => h.elim (fun h => absurd h.1 hname) fun h => congrArg Except.error h.2.2.symm⟩

theorem addField_eq_ok_iff :
    schema.addField field = .ok result ↔
      (field.column? = .ok none ∧ result = schema) ∨
      ∃ column, field.column? = .ok (some column) ∧ column.name ∉ schema.names ∧
        isNameable column.name = true ∧ result = schema ++ [column] := by
  rw [addField_eq]
  rcases field.column? with e | _ | column
  · simp [bind, Except.bind]
  · simp only [bind, Except.bind, Option.elim_none, Except.ok.injEq, true_and, reduceCtorEq,
      false_and, exists_false, or_false, eq_comm]
  · simp only [bind, Except.bind, Option.elim_some, Except.ok.injEq, reduceCtorEq, false_and,
      false_or, Option.some.injEq, exists_eq_left', addColumn_eq_ok_iff]

theorem addField_eq_error_iff :
    schema.addField field = .error e ↔ field.column? = .error e ∨
      ∃ column, field.column? = .ok (some column) ∧
        ((column.name ∈ schema.names ∧ e = .duplicateName column.name) ∨
        (column.name ∉ schema.names ∧ isNameable column.name = false ∧
          e = .unnameableConstant column.name)) := by
  rw [addField_eq]
  rcases field.column? with e | _ | column
  · simp [bind, Except.bind]
  · simp [bind, Except.bind]
  · simp only [bind, Except.bind, Option.elim_some, Except.ok.injEq, reduceCtorEq, false_or,
      Option.some.injEq, exists_eq_left', addColumn_eq_error_iff]

/-! ### All fields -/

theorem names_append (front later : Schema) :
    names (front ++ later) = front.names ++ later.names :=
  List.map_append

theorem nodup_names_concat :
    (names (schema ++ [column])).Nodup ↔ schema.names.Nodup ∧ column.name ∉ schema.names := by
  rw [names_append, and_comm]
  exact List.concat_eq_append ▸ List.nodup_concat schema.names column.name

/-- A schema grows by the columns of the fields, if each field is read and each column can be added.
The invariant of the loop is that the names differ. -/
theorem foldlM_addField_eq_ok_iff (hschema : schema.names.Nodup) :
    fields.foldlM addField schema = .ok result ↔
      ∃ opened, List.Forall₂ (fun field column? => field.column? = .ok column?) fields opened ∧
        result = schema ++ opened.reduceOption ∧ result.names.Nodup ∧
        ∀ column ∈ opened.reduceOption, isNameable column.name = true := by
  induction fields generalizing schema with
  | nil =>
    constructor
    · intro h
      cases h
      exact ⟨[], .nil, (List.append_nil _).symm, hschema, nofun⟩
    · rintro ⟨opened, hopened, rfl, -⟩
      cases hopened
      exact congrArg Except.ok (List.append_nil schema).symm
  | cons field fields ih =>
    rw [List.foldlM_cons]
    constructor
    · intro h
      cases hstep : schema.addField field with
      | error e =>
        rw [hstep] at h
        cases h
      | ok next =>
        rw [hstep] at h
        obtain ⟨hnone, rfl⟩ | ⟨column, hcolumn, hname, hnameable, rfl⟩ :=
          addField_eq_ok_iff.1 hstep
        · obtain ⟨opened, hopened, hresult⟩ := (ih hschema).1 h
          exact ⟨none :: opened, .cons hnone hopened, hresult⟩
        · have hnext : (names (schema ++ [column])).Nodup := by
            rw [names_append]
            exact hschema.append (List.nodup_singleton _) (List.disjoint_singleton.2 hname)
          obtain ⟨opened, hopened, rfl, hnodup, hall⟩ := (ih hnext).1 h
          refine ⟨some column :: opened, .cons hcolumn hopened, ?_, hnodup, ?_⟩
          · rw [List.append_assoc]
            rfl
          · exact List.forall_mem_cons.2 ⟨hnameable, hall⟩
    · rintro ⟨opened, hopened, hresult, hnodup, hall⟩
      cases hopened with
      | @cons _ column? _ opened hcolumn hopened =>
        cases column? with
        | none =>
          rw [addField_eq_ok_iff.2 (.inl ⟨hcolumn, rfl⟩)]
          exact (ih hschema).2 ⟨opened, hopened, hresult, hnodup, hall⟩
        | some column =>
          obtain ⟨hnameable, hall⟩ := List.forall_mem_cons.1 hall
          have hresult : result = schema ++ [column] ++ opened.reduceOption := by
            rw [hresult, List.append_assoc]
            rfl
          have hnext : (names (schema ++ [column])).Nodup := by
            rw [hresult, names_append] at hnodup
            exact List.Nodup.of_append_left hnodup
          have hname := (nodup_names_concat.1 hnext).2
          rw [addField_eq_ok_iff.2 (.inr ⟨column, hcolumn, hname, hnameable, rfl⟩)]
          exact (ih hnext).2 ⟨opened, hopened, hresult, hnodup, hall⟩

/-- A record has a schema when each of its fields is read, the names in filter keys differ and all
of them have a constant. Then the schema holds the opened fields in their order. -/
theorem derive_record_eq_ok_iff :
    derive (.record fields) = .ok schema ↔
      ∃ opened, fields.mapM FieldDeclaration.column? = .ok opened ∧
        schema = opened.reduceOption ∧ schema.names.Nodup ∧
        ∀ column ∈ schema, isNameable column.name = true := by
  have hnil : names [] = [] := rfl
  rw [derive, foldlM_addField_eq_ok_iff (hnil ▸ List.nodup_nil)]
  refine exists_congr fun opened => ?_
  rw [mapM_eq_ok_iff, List.nil_append]
  refine and_congr_right fun _ => and_congr_right fun h => ?_
  rw [h]

/-- A record has none for the first of its fields that is refused, and its names so far are those of
the fields before. -/
theorem derive_record_eq_error_iff :
    derive (.record fields) = .error e ↔
      ∃ before field after schema, fields = before ++ field :: after ∧
        derive (.record before) = .ok schema ∧ schema.addField field = .error e :=
  foldlM_eq_error_iff

/-! ### Constants -/

/-- The names of the constants. -/
def constants (schema : Schema) : List String :=
  schema.map (·.constant)

/-- In a schema the names in filter keys differ, and all of them are named by their constants. -/
theorem of_derive {declaration : Declaration} (h : derive declaration = .ok schema) :
    schema.names.Nodup ∧ schema.constants = schema.names.map constantName := by
  cases declaration with
  | record fields =>
    obtain ⟨opened, hopened, hschema, hnodup, -⟩ := derive_record_eq_ok_iff.1 h
    refine ⟨hnodup, ?_⟩
    rw [constants, names, List.map_map]
    refine List.map_congr_left fun column hcolumn => ?_
    rw [hschema, List.reduceOption_mem_iff] at hcolumn
    obtain ⟨field, -, hfield⟩ := exists_of_mem_mapM hopened hcolumn
    exact FieldDeclaration.constant_of_column? hfield
  | unnamedRecord => cases h
  | other => cases h

/-- The constants of a schema differ when no two names have the same words in upper case. It is only
the names themselves that a derivation compares, but names in snake case need no more. -/
theorem constants_nodup_iff {declaration : Declaration} (h : derive declaration = .ok schema) :
    schema.names.Nodup ∧ schema.constants = schema.names.map constantName ∧
      (schema.constants.Nodup ↔
        schema.names.Pairwise fun a b => capitalWords a ≠ capitalWords b) ∧
      ((∀ name ∈ schema.names, isSnakeCase name = true) → schema.constants.Nodup) := by
  obtain ⟨hnodup, hconstants⟩ := of_derive h
  refine ⟨hnodup, hconstants, ?_, fun hsnake => ?_⟩
  · rw [hconstants, List.Nodup, List.pairwise_map]
    simp only [ne_eq, constantName_eq_iff]
  · rw [hconstants]
    refine List.Nodup.map_on (fun a ha b hb hab => ?_) hnodup
    exact constantName_injective_of_snakeCase (hsnake a ha) (hsnake b hb) hab

/-- A product and the time when it was added, in snake case. -/
theorem constants_nodup_iff_product :
    derive (.record [⟨"name", [⟨"filter", .list [.path ["String"]]⟩]⟩,
      ⟨"created_at", [⟨"filter", .list [.path ["Timestamp"]]⟩]⟩]) =
        .ok [⟨"name", "NAME", "name", .value⟩,
          ⟨"created_at", "CREATED_AT", "created_at", .timestamp⟩] ∧
      (constants [⟨"name", "NAME", "name", .value⟩,
        ⟨"created_at", "CREATED_AT", "created_at", .timestamp⟩]).Nodup := by
  have h : derive (.record [⟨"name", [⟨"filter", .list [.path ["String"]]⟩]⟩,
      ⟨"created_at", [⟨"filter", .list [.path ["Timestamp"]]⟩]⟩]) =
        .ok [⟨"name", "NAME", "name", .value⟩,
          ⟨"created_at", "CREATED_AT", "created_at", .timestamp⟩] := by rfl
  exact ⟨h, (constants_nodup_iff h).2.2.2 (by decide)⟩

/-- Two names of the same words in different styles go through, with one constant between them. -/
theorem constant_of_two_fields :
    ∃ schema, derive (.record [⟨"created_at", [⟨"filter", .list [.path ["Timestamp"]]⟩]⟩,
        ⟨"createdAt", [⟨"filter", .list [.path ["Timestamp"]]⟩]⟩]) = .ok schema ∧
      ¬ schema.constants.Nodup := by
  refine ⟨[⟨"created_at", "CREATED_AT", "created_at", .timestamp⟩,
    ⟨"createdAt", "CREATED_AT", "createdAt", .timestamp⟩], by rfl, by decide⟩

/-! ### Declarations with an answer -/

/-- A declaration is answered by a schema or by an error in words. -/
def Answered (declaration : Declaration) : Prop :=
  (∃ schema, derive declaration = .ok schema) ∨
    ∃ e message, derive declaration = .error e ∧ e.message? = some message

theorem exists_message_of_apply {options : FilterOptions} {argument : Argument}
    (h : options.apply argument = .error e) : ∃ message, e.message? = some message := by
  revert h
  fun_cases FilterOptions.apply options argument <;> intro h <;> cases h <;> exact ⟨_, rfl⟩

theorem exists_message_of_arguments {filter : Attribute} (h : filter.arguments = .error e) :
    ∃ message, e.message? = some message := by
  revert h
  fun_cases Attribute.arguments filter <;> intro h <;> cases h <;> exact ⟨_, rfl⟩

/-- What is wrong with a field by itself is said in words. -/
theorem exists_message_of_column? (h : field.column? = .error e) :
    ∃ message, e.message? = some message := by
  rw [FieldDeclaration.column?_eq_error_iff, FilterOptions.ofAttributes] at h
  split at h
  · cases h
  · rename_i filter hfilter
    cases hlist : filter.arguments with
    | error e' =>
      rw [hlist] at h
      cases h
      exact exists_message_of_arguments hlist
    | ok arguments =>
      rw [hlist] at h
      obtain ⟨argument, -, options, hargument⟩ := exists_of_foldlM_eq_error h
      exact exists_message_of_apply hargument

/-- Only a constant without a name is not answered. -/
theorem answered_iff_ne {declaration : Declaration} :
    Answered declaration ↔ ∀ name, derive declaration ≠ .error (.unnameableConstant name) := by
  rw [Answered]
  cases derive declaration with
  | ok schema => exact ⟨fun _ _ => nofun, fun _ => .inl ⟨schema, rfl⟩⟩
  | error e =>
    constructor
    · rintro (⟨schema, h⟩ | ⟨e', message, h, hmessage⟩) name hname
      · cases h
      · cases h
        cases hname
        cases hmessage
    · intro h
      cases e with
      | unnameableConstant name => exact absurd rfl (h name)
      | _ => exact .inr ⟨_, _, rfl, rfl⟩

/-- A derivation ends without an answer at the first field that is open under a name which is neither
taken nor that of a constant. -/
theorem derive_eq_unnameableConstant_iff {declaration : Declaration} {name : String} :
    derive declaration = .error (.unnameableConstant name) ↔
      ∃ before field after schema column, declaration = .record (before ++ field :: after) ∧
        derive (.record before) = .ok schema ∧ field.column? = .ok (some column) ∧
        column.name = name ∧ name ∉ schema.names ∧ isNameable name = false := by
  cases declaration with
  | unnamedRecord => exact ⟨nofun, fun ⟨_, _, _, _, _, h, _⟩ => nomatch h⟩
  | other => exact ⟨nofun, fun ⟨_, _, _, _, _, h, _⟩ => nomatch h⟩
  | record fields =>
    rw [derive_record_eq_error_iff]
    constructor
    · rintro ⟨before, field, after, schema, rfl, hbefore, hfield⟩
      obtain hread | ⟨column, hcolumn, ⟨-, he⟩ | ⟨hname, hnameable, he⟩⟩ :=
        addField_eq_error_iff.1 hfield
      · obtain ⟨message, hmessage⟩ := exists_message_of_column? hread
        cases hmessage
      · cases he
      · cases he
        exact ⟨before, field, after, schema, column, rfl, hbefore, hcolumn, rfl, hname, hnameable⟩
    · rintro ⟨before, field, after, schema, column, h, hbefore, hcolumn, rfl, hname, hnameable⟩
      exact ⟨before, field, after, schema, Declaration.record.inj h, hbefore,
        addField_eq_error_iff.2 (.inr ⟨column, hcolumn, .inr ⟨hname, hnameable, rfl⟩⟩)⟩

/-- A declaration is answered exactly when each field that is reached, all fields before it being
right, is open, if at all, under a name that is taken or that a constant can have. -/
theorem answered_iff {declaration : Declaration} :
    Answered declaration ↔ ∀ before field after schema column,
      declaration = .record (before ++ field :: after) → derive (.record before) = .ok schema →
      field.column? = .ok (some column) →
      column.name ∈ schema.names ∨ isNameable column.name = true := by
  rw [answered_iff_ne]
  constructor
  · intro h before field after schema column hdeclaration hbefore hcolumn
    by_contra hunnameable
    rw [not_or, Bool.not_eq_true] at hunnameable
    exact h column.name (derive_eq_unnameableConstant_iff.2
      ⟨before, field, after, schema, column, hdeclaration, hbefore, hcolumn, rfl, hunnameable⟩)
  · intro h name hname
    obtain ⟨before, field, after, schema, column, hdeclaration, hbefore, hcolumn, rfl, hfresh,
      hunnameable⟩ := derive_eq_unnameableConstant_iff.1 hname
    obtain htaken | hnameable := h before field after schema column hdeclaration hbefore hcolumn
    · exact hfresh htaken
    · rw [hnameable] at hunnameable
      cases hunnameable

/-- So it is answered when every name under which a field is open can be that of a constant. -/
theorem answered_of_nameable
    (h : ∀ field ∈ fields, ∀ column : Column, field.column? = .ok (some column) →
      isNameable column.name = true) : Answered (.record fields) := by
  rw [answered_iff_ne]
  intro name hname
  obtain ⟨before, field, after, schema, column, hfields, -, hcolumn, rfl, -, hunnameable⟩ :=
    derive_eq_unnameableConstant_iff.1 hname
  have hmem : field ∈ fields := by simp [Declaration.record.inj hfields]
  rw [h field hmem column hcolumn] at hunnameable
  cases hunnameable

/-- A raw identifier is the name of a field, but its mark does not go into a constant. -/
theorem raw_field_not_answered :
    ¬ Answered (.record [⟨"r#type", [⟨"filter", .list [.path ["String"]]⟩]⟩]) := by
  have h : derive (.record [⟨"r#type", [⟨"filter", .list [.path ["String"]]⟩]⟩]) =
    .error (.unnameableConstant "r#type") := by rfl
  rw [answered_iff_ne]
  exact fun hanswered => hanswered "r#type" h

end Schema

end KeyedFilter
