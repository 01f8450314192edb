import KeyedFilter.Proofs.Schema.Attribute
import KeyedFilter.Schema.Reading

/-!
# Exposed fields

A schema exposes those fields of a record that say so in their attributes, in the order of their
declaration, and nothing else: what a record holds under the name of an exposed field is what the
field holds, and under any other name there is nothing. For this the names must differ, so a record
is refused at the first field whose name is taken, if not at one whose attribute is wrong.

* `exposed`: the exposed fields of a record.
* `Exposable`, `Offends`: records that have a schema, and fields for which they have none.
* `Schema.valueOf_of_mem`, `Schema.valueOf_of_notMem`: reading through a schema.
* `Schema.derive_exposes`: what a derivation comes to.
-/

namespace KeyedFilter

variable {fields before : List FieldDeclaration} {field : FieldDeclaration} {e : SchemaError}

/-- The exposed fields, in the order of their declaration. -/
def exposed (fields : List FieldDeclaration) : List FieldDeclaration :=
  fields.filter (·.exposedType?.isSome)

/-- The names under which fields are exposed. -/
def exposedNames (fields : List FieldDeclaration) : List String :=
  (exposed fields).map (·.exposedName)

/-- Records whose fields can be exposed. -/
structure Exposable (fields : List FieldDeclaration) : Prop where
  faultless : ∀ field ∈ fields, field.fault? = none
  distinct : (exposedNames fields).Nodup
  nameable : ∀ name ∈ exposedNames fields, Text.isIdentifier (Schema.constantName name) = true

/-- A field for which a record is refused: its first `filter` attribute is wrong, or it is exposed
under a name that is taken by a field before it or that gives no constant. -/
inductive Offends (before : List FieldDeclaration) (field : FieldDeclaration) : SchemaError → Prop
  | faulty {e : SchemaError} : field.fault? = some e → Offends before field e
  | taken : field.fault? = none → field.exposedType?.isSome → field.exposedName ∈ exposedNames before →
      Offends before field (.duplicateName field.exposedName)
  | unnameable : field.fault? = none → field.exposedType?.isSome →
      field.exposedName ∉ exposedNames before →
      Text.isIdentifier (Schema.constantName field.exposedName) = false →
      Offends before field (.unnameableConstant field.exposedName)

/-! ### Columns -/

namespace FieldDeclaration

theorem exposedColumn?_eq_some_iff {column : Column} :
    field.exposedColumn? = some column ↔ ∃ type, field.exposedType? = some type ∧
      ⟨field.exposedName, Schema.constantName field.exposedName, field.name, type.reading⟩ =
        column :=
  Option.map_eq_some_iff

theorem exists_exposedColumn? (h : field.exposedType?.isSome) :
    ∃ column, field.exposedColumn? = some column ∧ column.name = field.exposedName := by
  obtain ⟨type, htype⟩ := Option.isSome_iff_exists.1 h
  exact ⟨_, exposedColumn?_eq_some_iff.2 ⟨type, htype, rfl⟩, rfl⟩

theorem column?_eq_ok_iff {column? : Option Column} :
    field.column? = .ok column? ↔ field.fault? = none ∧ field.exposedColumn? = column? := by
  rw [column?_eq]
  cases field.fault? <;> simp

theorem column?_eq_error_iff_fault? : field.column? = .error e ↔ field.fault? = some e := by
  rw [column?_eq]
  cases field.fault? <;> simp

end FieldDeclaration

theorem mapM_column?_eq_ok_iff {opened : List (Option Column)} :
    fields.mapM FieldDeclaration.column? = .ok opened ↔
      (∀ field ∈ fields, field.fault? = none) ∧
        fields.map FieldDeclaration.exposedColumn? = opened := by
  rw [mapM_eq_ok_iff]
  induction fields generalizing opened with
  | nil => simp
  | cons field fields ih =>
    cases opened with
    | nil => simp
    | cons column? opened =>
      rw [List.forall₂_cons, ih, FieldDeclaration.column?_eq_ok_iff, List.forall_mem_cons,
        List.map_cons, List.cons.injEq]
      tauto

namespace Schema

variable {schema : Schema} {column : Column} {read : FieldReading → String → Scalar}

theorem names_filterMap_exposedColumn? (fields : List FieldDeclaration) :
    names (fields.filterMap FieldDeclaration.exposedColumn?) = exposedNames fields := by
  unfold names exposedNames exposed
  induction fields with
  | nil => rfl
  | cons field fields ih =>
    rw [List.filterMap_cons, List.filter_cons]
    unfold FieldDeclaration.exposedColumn? at ih ⊢
    cases field.exposedType? with
    | none => exact ih
    | some type => simpa using ih

/-- A record has a schema exactly when its fields can be exposed, and it is that of the exposed
fields. -/
theorem derive_record_eq_ok_iff_exposable :
    derive (.record fields) = .ok schema ↔
      Exposable fields ∧ schema = fields.filterMap FieldDeclaration.exposedColumn? := by
  have hcolumns : (fields.map FieldDeclaration.exposedColumn?).reduceOption =
      fields.filterMap FieldDeclaration.exposedColumn? := by
    rw [List.reduceOption, List.filterMap_map]
    rfl
  rw [derive_record_eq_ok_iff]
  constructor
  · rintro ⟨opened, hopened, rfl, hnodup, hnameable⟩
    obtain ⟨hfaultless, rfl⟩ := mapM_column?_eq_ok_iff.1 hopened
    rw [hcolumns] at hnodup hnameable ⊢
    refine ⟨⟨hfaultless, names_filterMap_exposedColumn? fields ▸ hnodup, fun name hname => ?_⟩, rfl⟩
    rw [← names_filterMap_exposedColumn?, names, List.mem_map] at hname
    obtain ⟨column, hcolumn, rfl⟩ := hname
    rw [isIdentifier_constantName]
    exact hnameable column hcolumn
  · rintro ⟨hexposable, rfl⟩
    refine ⟨_, mapM_column?_eq_ok_iff.2 ⟨hexposable.faultless, rfl⟩, hcolumns.symm, ?_, ?_⟩
    · rw [names_filterMap_exposedColumn?]
      exact hexposable.distinct
    · intro column hcolumn
      rw [← isIdentifier_constantName]
      apply hexposable.nameable
      rw [← names_filterMap_exposedColumn?]
      exact List.mem_map_of_mem hcolumn

/-- Behind fields that can be exposed, a field is refused when it offends. -/
theorem addField_eq_error_iff_offends :
    addField (before.filterMap FieldDeclaration.exposedColumn?) field = .error e ↔
      Offends before field e := by
  rw [addField_eq_error_iff, FieldDeclaration.column?_eq_error_iff_fault?,
    names_filterMap_exposedColumn?]
  simp only [FieldDeclaration.column?_eq_ok_iff, ← isIdentifier_constantName]
  constructor
  · rintro (hfault | ⟨column, ⟨hfault, hcolumn⟩, hname⟩)
    · exact .faulty hfault
    · obtain ⟨type, htype, rfl⟩ := FieldDeclaration.exposedColumn?_eq_some_iff.1 hcolumn
      have hexposed : field.exposedType?.isSome := Option.isSome_of_eq_some htype
      obtain ⟨htaken, rfl⟩ | ⟨hfresh, hconstant, rfl⟩ := hname
      · exact .taken hfault hexposed htaken
      · exact .unnameable hfault hexposed hfresh hconstant
  · rintro (hfault | ⟨hfault, hexposed, htaken⟩ | ⟨hfault, hexposed, hfresh, hconstant⟩)
    · exact .inl hfault
    · obtain ⟨column, hcolumn, hname⟩ := FieldDeclaration.exists_exposedColumn? hexposed
      refine .inr ⟨column, ⟨hfault, hcolumn⟩, .inl ?_⟩
      rw [hname]
      exact ⟨htaken, rfl⟩
    · obtain ⟨column, hcolumn, hname⟩ := FieldDeclaration.exists_exposedColumn? hexposed
      refine .inr ⟨column, ⟨hfault, hcolumn⟩, .inr ?_⟩
      rw [hname]
      exact ⟨hfresh, hconstant, rfl⟩

/-- A record is refused for the first of its fields that offends. -/
theorem derive_record_eq_error_iff_offends :
    derive (.record fields) = .error e ↔ ∃ before field after,
      fields = before ++ field :: after ∧ Exposable before ∧ Offends before field e := by
  rw [derive_record_eq_error_iff]
  constructor
  · rintro ⟨before, field, after, schema, rfl, hbefore, hfield⟩
    obtain ⟨hexposable, rfl⟩ := derive_record_eq_ok_iff_exposable.1 hbefore
    exact ⟨before, field, after, rfl, hexposable, addField_eq_error_iff_offends.1 hfield⟩
  · rintro ⟨before, field, after, rfl, hexposable, hoffends⟩
    exact ⟨before, field, after, _, rfl, derive_record_eq_ok_iff_exposable.2 ⟨hexposable, rfl⟩,
      addField_eq_error_iff_offends.2 hoffends⟩

/-! ### Reading -/

/-- What is read in a field of which is known what it holds as a scalar and as a point in time. -/
def readThrough (value : String → Scalar) (time? : String → Option Timestamp) :
    FieldReading → String → Scalar
  | .value, source => value source
  | .timestamp, source => .ofTimestamp? (time? source)

theorem valueOf_of_mem (hnodup : schema.names.Nodup) (hcolumn : column ∈ schema) :
    schema.valueOf read column.name = read column.reading column.source := by
  have hfound : schema.column? column.name = some column := by
    induction schema with
    | nil => cases hcolumn
    | cons first rest ih =>
      rw [names, List.map_cons, List.nodup_cons] at hnodup
      obtain rfl | hcolumn := List.mem_cons.1 hcolumn
      · exact List.find?_cons_of_pos (beq_self_eq_true _)
      · have hne : first.name ≠ column.name := fun heq =>
          hnodup.1 (heq ▸ List.mem_map_of_mem hcolumn)
        rw [column?, List.find?_cons_of_neg (by simpa using hne)]
        exact ih hnodup.2 hcolumn
  rw [valueOf, hfound, Option.elim_some]

theorem valueOf_of_notMem {name : String} (h : name ∉ schema.names) :
    schema.valueOf read name = .null := by
  have hnone : schema.column? name = none := by
    rw [column?, List.find?_eq_none]
    intro column hcolumn heq
    exact h (beq_iff_eq.1 heq ▸ List.mem_map_of_mem hcolumn)
  rw [valueOf, hnone, Option.elim_none]

/-- **A schema exposes what the fields say of themselves.** A record has a schema when nothing is
wrong with the first `filter` attributes of its fields, the names of the exposed ones differ and all
of them give constants. Its names are those of the exposed fields, which are the fields with a listed
type and without a `skip`, in the order of their declaration. Under such a name is what the field
holds, as a point in time if that is its type, and under any other name there is nothing. If a record
has none, that is for the first field that offends. -/
theorem derive_exposes (fields : List FieldDeclaration) :
    (∀ schema, derive (.record fields) = .ok schema ↔
      Exposable fields ∧ schema = fields.filterMap FieldDeclaration.exposedColumn?) ∧
    (∀ schema, derive (.record fields) = .ok schema →
      schema.names = (exposed fields).map (·.exposedName) ∧ schema.names.Nodup ∧
      ∀ (value : String → Scalar) (time? : String → Option Timestamp),
        (∀ field ∈ exposed fields,
          schema.valueOf (readThrough value time?) field.exposedName =
            if field.exposedType? = some .timestamp then .ofTimestamp? (time? field.name)
            else value field.name) ∧
        ∀ name, name ∉ schema.names →
          schema.valueOf (readThrough value time?) name = .null) ∧
    ∀ e, derive (.record fields) = .error e ↔ ∃ before field after,
      fields = before ++ field :: after ∧ Exposable before ∧ Offends before field e := by
  refine ⟨fun schema => derive_record_eq_ok_iff_exposable, fun schema hschema => ?_,
    fun e => derive_record_eq_error_iff_offends⟩
  obtain ⟨hexposable, rfl⟩ := derive_record_eq_ok_iff_exposable.1 hschema
  have hnames := names_filterMap_exposedColumn? fields
  have hnodup : (names (fields.filterMap FieldDeclaration.exposedColumn?)).Nodup :=
    hnames ▸ hexposable.distinct
  refine ⟨hnames, hnodup, fun value time? => ⟨fun field hfield => ?_,
    fun name hname => valueOf_of_notMem hname⟩⟩
  obtain ⟨hmem, hexposed⟩ := List.mem_filter.1 hfield
  obtain ⟨type, htype⟩ := Option.isSome_iff_exists.1 hexposed
  have hcolumn := FieldDeclaration.exposedColumn?_eq_some_iff.2 ⟨type, htype, rfl⟩
  rw [htype]
  refine (valueOf_of_mem hnodup (List.mem_filterMap.2 ⟨field, hmem, hcolumn⟩)).trans ?_
  cases type <;> rfl

/-- The first `filter` attribute counts, and in it the last type and the last name. A `skip` need not
come last. An attribute whose parentheses hold no list of arguments is refused in the words of its
reader, whatever attributes come behind it, and so is a second field under a name that is taken. -/
theorem derive_exposes_price :
    let price : FieldDeclaration := ⟨"price", [⟨"doc", .value⟩,
      ⟨"filter", .list [.path ["String"], .assign ["rename"] (.text "cost"), .path ["Number"],
        .assign ["rename"] (.text "unit-price")]⟩,
      ⟨"filter", .list [.path ["skip"]]⟩]⟩
    let notes : FieldDeclaration := ⟨"notes", [⟨"filter", .list [.path ["skip"], .path ["String"]]⟩]⟩
    let opened : FieldDeclaration := ⟨"opened", [⟨"filter", .list [.path ["timestamp"]]⟩]⟩
    let stock : FieldDeclaration := ⟨"stock", [⟨"filter", .unreadable "expected identifier"⟩,
      ⟨"filter", .list [.path ["Number"]]⟩]⟩
    let total : FieldDeclaration := ⟨"total", [⟨"filter", .list [.path ["Number"],
      .assign ["rename"] (.text "unit-price")]⟩]⟩
    let schema : Schema := [⟨"unit-price", "UNIT_PRICE", "price", .value⟩,
      ⟨"opened", "OPENED", "opened", .timestamp⟩]
    derive (.record [price, notes, opened]) = .ok schema ∧
      price ∈ exposed [price, notes, opened] ∧ opened ∈ exposed [price, notes, opened] ∧
      "notes" ∉ schema.names ∧
      schema.valueOf (readThrough .string fun _ => some ⟨60000⟩) "unit-price" = .string "price" ∧
      schema.valueOf (readThrough .string fun _ => some ⟨60000⟩) "opened" = .timestamp ⟨60000⟩ ∧
      schema.valueOf (readThrough .string fun _ => some ⟨60000⟩) "notes" = .null ∧
      derive (.record [price, stock, total]) =
        .error (.unreadableArguments "expected identifier") ∧
      derive (.record [price, total, stock]) = .error (.duplicateName "unit-price") := by
  intro price notes opened stock total schema
  have hschema : derive (.record [price, notes, opened]) = .ok schema := by decide +kernel
  have hprice : price ∈ exposed [price, notes, opened] := List.mem_cons_self
  have hopened : opened ∈ exposed [price, notes, opened] :=
    List.mem_cons_of_mem _ List.mem_cons_self
  have hnotes : "notes" ∉ schema.names := by decide
  obtain ⟨-, -, hread⟩ := (derive_exposes [price, notes, opened]).2.1 schema hschema
  obtain ⟨hexposed, hclosed⟩ := hread .string fun _ => some ⟨60000⟩
  have hfirst : derive (.record [price]) =
      .ok [⟨"unit-price", "UNIT_PRICE", "price", .value⟩] := by decide +kernel
  have hexposable : Exposable [price] := (((derive_exposes [price]).1 _).1 hfirst).1
  have hunreadable : Offends [price] stock (.unreadableArguments "expected identifier") :=
    .faulty rfl
  have htaken : Offends [price] total (.duplicateName "unit-price") :=
    .taken rfl rfl List.mem_cons_self
  exact ⟨hschema, hprice, hopened, hnotes, hexposed price hprice, hexposed opened hopened,
    hclosed "notes" hnotes,
    ((derive_exposes [price, stock, total]).2.2 _).2
      ⟨[price], stock, [total], rfl, hexposable, hunreadable⟩,
    ((derive_exposes [price, total, stock]).2.2 _).2
      ⟨[price], total, [stock], rfl, hexposable, htaken⟩⟩

end Schema

end KeyedFilter
