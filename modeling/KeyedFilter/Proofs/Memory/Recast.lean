import KeyedFilter.Proofs.Memory.Results
import KeyedFilter.Proofs.Predicate.Representation

/-!
# Searches in other representations

The same entities may be held in another form, with their numbers as words of the other kind or as
doubles, and the same request may be read with operands in such a form. If the scalars stand for the
same, the search goes the same way at every step: the filters have a plan with the same constraints,
each entity meets the same fate, the entities that are found are sorted alike, and one page is cut
out. So the answer is the same as well, in the other form, and so is the error.

* `FilterPlan.ofFilters_mapValues`: the plan of a request with other operands.
* `Memory.select_recast`: a query on other entities.
* `Memory.outcome_recast`: a whole search.
-/

namespace KeyedFilter

/-! ### Operands -/

/-- The constraint with its operand in another form. -/
def Constraint.mapOperand (f : Scalar → Scalar) (c : Constraint) : Constraint :=
  { c with operand := f c.operand }

/-- The plan with its operands in another form. -/
def FilterPlan.mapOperands (f : Scalar → Scalar) (plan : FilterPlan) : FilterPlan :=
  ⟨plan.constraints.map (Constraint.mapOperand f), plan.named.map fun entry => (entry.1, f entry.2)⟩

theorem Constraint.groupByField_map (f : Scalar → Scalar) (constraints : List Constraint) :
    groupByField (constraints.map (mapOperand f)) =
      (groupByField constraints).map (mapOperand f) := by
  unfold groupByField
  rw [List.map_map, List.map_flatMap]
  simp only [List.filter_map]
  rfl

theorem FilterPlan.remaining_mapOperands (f : Scalar → Scalar) (plan : FilterPlan) :
    (plan.mapOperands f).remaining = plan.remaining.map (Constraint.mapOperand f) := by
  have hcovers : ∀ field, (plan.mapOperands f).covers field = plan.covers field := by
    intro field
    rw [covers, covers, mapOperands, List.any_map]
    rfl
  rw [remaining, remaining, mapOperands, List.filter_map]
  congr 1
  exact List.filter_congr fun c _ => congrArg not (hcovers c.field)

section Operands

variable {f : Scalar → Scalar} (hf : ∀ s : Scalar, s.Alike (f s))
include hf

/-- A filter is read alike, or refused with the same error, when its operand has another form. -/
theorem Constraint.ofFilter_mapOperand (fields : List String) (filter : String × Scalar) :
    ofFilter fields (filter.1, f filter.2) = (ofFilter fields filter).map (mapOperand f) := by
  rw [ofFilter, ofFilter]
  cases FilterKey.parse fields filter.1 with
  | error e => rfl
  | ok key =>
    have hcheck := key.predicate.relation.checkOperandType_congr key.field (hf filter.2)
    simp only [bind, Except.bind, ofKey, ← hcheck]
    cases key.predicate.relation.checkOperandType key.field filter.2 <;> rfl

/-- **The plan of a request with operands in another form** is the plan of the request, with its
operands in that form. -/
theorem FilterPlan.ofFilters_mapValues (filters : Filters) (fields registered : List String) :
    ofFilters (filters.mapValues f) fields registered =
      (ofFilters filters fields registered).map (mapOperands f) := by
  have hkeyed : (keyed (filters.mapValues f) registered).mapM (Constraint.ofFilter fields) =
      ((keyed filters registered).mapM (Constraint.ofFilter fields)).map
        (List.map (Constraint.mapOperand f)) := by
    rw [keyed, OrderedMap.mapValues, List.filter_map]
    exact mapM_map_eq fun filter _ => Constraint.ofFilter_mapOperand hf fields filter
  have hasked : asked (filters.mapValues f) registered =
      (asked filters registered).map fun entry => (entry.1, f entry.2) := by
    rw [asked, asked, List.map_filterMap]
    apply List.filterMap_congr
    intro name _
    rw [OrderedMap.get?_mapValues, Option.map_map, Option.map_map]
    rfl
  rw [ofFilters_eq, ofFilters_eq, hkeyed, hasked]
  cases (keyed filters registered).mapM (Constraint.ofFilter fields) with
  | error e => rfl
  | ok constraints =>
    simp only [Except.map, Constraint.groupByField_map, mapOperands]

theorem Constraint.holds_mapOperand (c : Constraint) {value value' : Scalar}
    (hvalue : value.Alike value') :
    (c.mapOperand f).holds value' = c.holds value :=
  (c.predicate.evaluate_congr c.field hvalue (hf c.operand)).symm

end Operands

/-! ### Entities -/

namespace Memory

variable {σ ε ε' : Type}

/-- What a query asks of the recast of an entity, asked of the entity itself. -/
def Query.pullback (recast : ε → ε') (constraints : List Constraint) (query : Query ε') : Query ε :=
  { constraints, tests := query.tests.map (· ∘ recast), window := query.window }

theorem cut_recast (recast : ε → ε') (query : Query ε') (constraints : List Constraint)
    (entities : List ε) :
    query.cut (entities.map recast) =
      ((query.pullback recast constraints).cut entities).map recast := by
  rw [Query.cut, Query.cut, Query.pullback]
  cases query.window with
  | none => rfl
  | some window => simp [Window.cut]

theorem askedTests_recast (f : Scalar → Scalar) (recast : ε → ε')
    (tests : OrderedMap (Scalar → ε' → Bool)) (plan : FilterPlan) :
    (askedTests tests (plan.mapOperands f).named).map (· ∘ recast) =
      askedTests (tests.mapValues fun test operand entity => test (f operand) (recast entity))
        plan.named := by
  rw [askedTests, askedTests, FilterPlan.mapOperands, List.filterMap_map, List.map_filterMap]
  apply List.filterMap_congr
  intro entry _
  rw [OrderedMap.get?_mapValues, Function.comp_apply, Option.map_map, Option.map_map]
  rfl

variable [HasFields ε] [HasFields ε'] {recast : ε → ε'}

section Sorting

variable (hrecast : ∀ entity name, (field entity name).Alike (field (recast entity) name))
include hrecast

theorem compareBy_recast (clauses : List SortClause) (a b : ε) :
    SortClause.compareBy clauses a b = SortClause.compareBy clauses (recast a) (recast b) := by
  induction clauses with
  | nil => rfl
  | cons clause rest ih =>
    rw [SortClause.compareBy_cons, SortClause.compareBy_cons, compareLex, compareLex, ih,
      SortClause.compare, SortClause.compare, Scalar.compare_congr (hrecast a _) (hrecast b _)]

theorem sort_recast (clauses : List SortClause) (entities : List ε) :
    sort clauses (entities.map recast) = (sort clauses entities).map recast := by
  refine (List.map_mergeSort fun a _ b _ => ?_).symm
  rw [compareBy_recast hrecast]

end Sorting

section Searching

variable {f : Scalar → Scalar} {query : Query ε'} {constraints : List Constraint}
  (hf : ∀ s : Scalar, s.Alike (f s))
  (hrecast : ∀ entity name, (field entity name).Alike (field (recast entity) name))
include hf hrecast

theorem satisfies_recast (constraints : List Constraint) (entity : ε) :
    satisfies (constraints.map (Constraint.mapOperand f)) (recast entity) =
      satisfies constraints entity := by
  induction constraints with
  | nil => rfl
  | cons c rest ih =>
    rw [List.map_cons, satisfies, satisfies, ih, c.holds_mapOperand hf (hrecast entity _)]
    rfl

theorem accepts_recast
    (hquery : query.constraints = constraints.map (Constraint.mapOperand f)) (entity : ε) :
    query.accepts (recast entity) = (query.pullback recast constraints).accepts entity := by
  rw [Query.accepts, Query.accepts, hquery, satisfies_recast hf hrecast, Query.pullback,
    List.all_map]
  rfl

/-- The recasts of entities meet the fate of the entities. -/
theorem matching_recast
    (hquery : query.constraints = constraints.map (Constraint.mapOperand f)) (entities : List ε) :
    matching query (entities.map recast) =
      (matching (query.pullback recast constraints) entities).map (List.map recast) := by
  induction entities with
  | nil => rfl
  | cons entity rest ih =>
    rw [List.map_cons, matching, matching, accepts_recast hf hrecast hquery, ih]
    cases (query.pullback recast constraints).accepts entity with
    | error e => rfl
    | ok accepted =>
      cases matching (query.pullback recast constraints) rest with
      | error e => rfl
      | ok others => cases accepted <;> rfl

/-- **A query finds the recasts of what it finds among the entities themselves.** -/
theorem select_recast
    (hquery : query.constraints = constraints.map (Constraint.mapOperand f)) (entities : List ε)
    (clauses : List SortClause) :
    select (entities.map recast) clauses query =
      (select entities clauses (query.pullback recast constraints)).map (List.map recast) := by
  rw [select, select, matching_recast hf hrecast hquery]
  cases matching (query.pullback recast constraints) entities with
  | error e => rfl
  | ok found =>
    have hcut : query.cut (sort clauses (found.map recast)) =
        ((query.pullback recast constraints).cut (sort clauses found)).map recast := by
      rw [sort_recast hrecast, cut_recast recast query constraints]
    exact congrArg Except.ok hcut

/-- **The answer does not depend on how numbers are represented.** Entities in another form, whose
fields stand for the same, and a request in another form, whose operands stand for the same, have
the answer of the entities and the request, in the other form, or the same error. A registered test
must come to the same on both sides. -/
theorem outcome_recast (entities : List ε) (clauses : List SortClause) (fields : List String)
    (tests : OrderedMap (Scalar → ε' → Bool)) (paging : Option Paging) (request : Request)
    (s s' : σ) :
    (search (entities.map recast) clauses fields tests paging
      { request with filters := request.filters.mapValues f }).outcome s =
    ((search entities clauses fields
      (tests.mapValues fun test operand entity => test (f operand) (recast entity)) paging
        request).outcome s').map (List.map recast) := by
  let tests' : OrderedMap (Scalar → ε → Bool) :=
    tests.mapValues fun test operand entity => test (f operand) (recast entity)
  have hkeys : tests'.keys = tests.keys := OrderedMap.keys_mapValues _ _
  have hplan := FilterPlan.ofFilters_mapValues hf request.filters fields tests.keys
  cases hread : FilterPlan.ofFilters request.filters fields tests.keys with
  | error e =>
    rw [hread] at hplan
    rw [outcome_of_plan_error _ _ _ _ _ _ hplan, outcome_of_plan_error _ _ _ _ _ _ (hkeys ▸ hread)]
    rfl
  | ok plan =>
    rw [hread] at hplan
    have hquery : (planQuery tests paging request (plan.mapOperands f)).pullback recast
        plan.remaining = planQuery tests' paging request plan := by
      rw [Query.pullback, planQuery, planQuery, askedTests_recast]
    rw [outcome_of_plan_ok _ _ _ _ _ _ hplan, outcome_of_plan_ok _ _ _ _ _ _ (hkeys ▸ hread),
      ← hquery]
    exact select_recast hf hrecast (plan.remaining_mapOperands f) entities clauses

end Searching

end Memory

end KeyedFilter
