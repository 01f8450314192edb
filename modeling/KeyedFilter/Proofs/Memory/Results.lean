import KeyedFilter.Proofs.Memory.Matching
import KeyedFilter.Proofs.Search
import KeyedFilter.Proofs.SortOrder
import KeyedFilter.Proofs.StableSort
import KeyedFilter.Scalar.Conversion

/-!
# What a search in memory finds

All steps of a search but the last only put together one query, so its result can be said outright.
Where the registered filters ask for tests of an entity, the result is the entities of which
everything is true, in the one stable arrangement by the clauses, cut down to the page.

* `searchWith`, `wholeQuery`: a search in memory with any registered filters, and the query that it
  runs for a plan, apart from the page.
* `search`, `planQuery`: the same for tests as registered filters.
* `outcome_of_plan_error`, `outcome_of_plan_ok`: what a search answers.
* `search_finds_exactly`: the result in terms of the entities.
-/

namespace KeyedFilter.Memory

variable {σ ε : Type}

/-- Tests under names, as filters: each asks for its test of the operand to hold. -/
def testFilters (tests : OrderedMap (Scalar → ε → Bool)) : NamedFilters (Query ε) :=
  tests.mapValues fun test query operand => query.keepIf (test operand)

theorem keys_testFilters (tests : OrderedMap (Scalar → ε → Bool)) :
    (testFilters tests).keys = tests.keys :=
  OrderedMap.keys_mapValues _ _

/-- The tests that some names with operands ask for. -/
def askedTests (tests : OrderedMap (Scalar → ε → Bool)) (named : List (String × Scalar)) :
    List (ε → Bool) :=
  named.filterMap fun entry => (tests.get? entry.1).map fun test => test entry.2

theorem applyTo_testFilters (tests : OrderedMap (Scalar → ε → Bool)) (plan : FilterPlan)
    (query : Query ε) :
    (testFilters tests).applyTo plan query =
      { query with tests := query.tests ++ askedTests tests plan.named } := by
  obtain ⟨constraints, named⟩ := plan
  unfold NamedFilters.applyTo
  induction named generalizing query with
  | nil => simp [askedTests]
  | cons entry rest ih =>
    rw [List.foldl_cons, ih]
    cases htest : tests.get? entry.1 with
    | none => simp [testFilters, askedTests, htest]
    | some test => simp [testFilters, askedTests, htest, Query.keepIf]

variable [HasFields ε]

theorem foldlM_constrain (entities : List ε) (clauses : List SortClause)
    (constraints : List Constraint) (query : Query ε) :
    constraints.foldlM (source (σ := σ) entities clauses).constrain query =
      pure { query with constraints := query.constraints ++ constraints } := by
  induction constraints generalizing query with
  | nil => simp
  | cons c rest ih =>
    rw [List.foldlM_cons]
    show (pure (query.constrain c) >>= fun query' => rest.foldlM _ query' : Action σ _) = _
    rw [pure_bind, ih]
    simp [Query.constrain]

/-! ### Searches with any registered filters -/

/-- A search in memory that has no result yet, with any registered filters. -/
def searchWith (named : NamedFilters (Query ε)) (entities : List ε) (clauses : List SortClause)
    (fields : List String) (paging : Option Paging) (request : Request) : Search σ (Query ε) ε where
  catalog := { source := source entities clauses, fields, named, paging }
  request

/-- The query that a plan comes to, before a page is cut out of it. -/
def wholeQuery (named : NamedFilters (Query ε)) (plan : FilterPlan) : Query ε :=
  let query := named.applyTo plan {}
  { query with constraints := query.constraints ++ plan.remaining }

section

variable (named : NamedFilters (Query ε)) (entities : List ε) (clauses : List SortClause)
  (fields : List String) (paging : Option Paging) (request : Request)

theorem prepare_searchWith (plan : FilterPlan) :
    (searchWith (σ := σ) named entities clauses fields paging request).prepare plan {} =
      pure (paging.elim (wholeQuery named plan) fun paging =>
        (wholeQuery named plan).cutTo (paging.window request.page request.perPage)) := by
  unfold Search.prepare Source.refine searchWith
  rw [foldlM_constrain, pure_bind]
  cases paging <;> rfl

theorem outcome_searchWith_of_plan_error {e : FilterError}
    (h : FilterPlan.ofFilters request.filters fields named.keys = .error e) (s : σ) :
    (searchWith named entities clauses fields paging request).outcome s = .error e := by
  have hplan : (searchWith (σ := σ) named entities clauses fields paging request).plan = .error e :=
    h
  rw [Search.outcome_of_memo_none rfl, Search.attempt_of_plan_error hplan]

theorem outcome_searchWith_of_plan_ok {plan : FilterPlan}
    (h : FilterPlan.ofFilters request.filters fields named.keys = .ok plan) (s : σ) :
    (searchWith named entities clauses fields paging request).outcome s =
      select entities clauses (paging.elim (wholeQuery named plan) fun paging =>
        (wholeQuery named plan).cutTo (paging.window request.page request.perPage)) := by
  have hplan : (searchWith (σ := σ) named entities clauses fields paging request).plan = .ok plan :=
    h
  rw [Search.outcome_of_memo_none rfl, Search.attempt_of_plan_ok hplan rfl,
    ← Search.prepare_eq_foldlM, prepare_searchWith, pure_bind]
  rfl

end

/-! ### Searches with tests as registered filters -/

/-- A search in memory that has no result yet. -/
def search (entities : List ε) (clauses : List SortClause) (fields : List String)
    (tests : OrderedMap (Scalar → ε → Bool)) (paging : Option Paging) (request : Request) :
    Search σ (Query ε) ε where
  catalog := { source := source entities clauses, fields, named := testFilters tests, paging }
  request

/-- The query that a plan comes to. -/
def planQuery (tests : OrderedMap (Scalar → ε → Bool)) (paging : Option Paging)
    (request : Request) (plan : FilterPlan) : Query ε where
  constraints := plan.remaining
  tests := askedTests tests plan.named
  window := paging.map fun paging => paging.window request.page request.perPage

section

variable (entities : List ε) (clauses : List SortClause) (fields : List String)
  (tests : OrderedMap (Scalar → ε → Bool)) (paging : Option Paging) (request : Request)

omit [HasFields ε] in
theorem planQuery_eq (plan : FilterPlan) :
    planQuery tests paging request plan =
      paging.elim (wholeQuery (testFilters tests) plan) fun paging =>
        (wholeQuery (testFilters tests) plan).cutTo
          (paging.window request.page request.perPage) := by
  unfold wholeQuery
  rw [applyTo_testFilters]
  cases paging <;> rfl

theorem outcome_of_plan_error {e : FilterError}
    (h : FilterPlan.ofFilters request.filters fields tests.keys = .error e) (s : σ) :
    (search entities clauses fields tests paging request).outcome s = .error e := by
  rw [← keys_testFilters] at h
  exact outcome_searchWith_of_plan_error (testFilters tests) entities clauses fields paging request
    h s

theorem outcome_of_plan_ok {plan : FilterPlan}
    (h : FilterPlan.ofFilters request.filters fields tests.keys = .ok plan) (s : σ) :
    (search entities clauses fields tests paging request).outcome s =
      select entities clauses (planQuery tests paging request plan) := by
  rw [← keys_testFilters] at h
  rw [planQuery_eq]
  exact outcome_searchWith_of_plan_ok (testFilters tests) entities clauses fields paging request h s

variable {entities} in
theorem outcome_of_stopsWith {plan : FilterPlan} {before after : List ε} {entity : ε}
    {e : FilterError} (h : FilterPlan.ofFilters request.filters fields tests.keys = .ok plan)
    (hsplit : entities = before ++ entity :: after)
    (hbefore : ∀ x ∈ before, ∀ e', ¬ StopsWith plan.remaining x e')
    (hstop : StopsWith plan.remaining entity e) (s : σ) :
    (search entities clauses fields tests paging request).outcome s = .error e := by
  rw [outcome_of_plan_ok entities clauses fields tests paging request h, select, hsplit]
  have hmatching :
      matching (planQuery tests paging request plan) (before ++ entity :: after) = .error e :=
    matching_eq_error hbefore hstop
  rw [hmatching]
  rfl

theorem outcome_of_not_stopsWith {plan : FilterPlan}
    (h : FilterPlan.ofFilters request.filters fields tests.keys = .ok plan)
    (hnone : ∀ x ∈ entities, ∀ e, ¬ StopsWith plan.remaining x e) (s : σ) :
    (search entities clauses fields tests paging request).outcome s =
      .ok ((planQuery tests paging request plan).cut (sort clauses
        (entities.filter (selects plan.remaining (askedTests tests plan.named))))) := by
  have hmatching : matching (planQuery tests paging request plan) entities =
      .ok (entities.filter (selects plan.remaining (askedTests tests plan.named))) :=
    matching_eq_ok hnone
  rw [outcome_of_plan_ok entities clauses fields tests paging request h, select, hmatching]
  rfl

variable {entities clauses fields tests paging request} in
/-- A search that answers has a plan, no entity stops the walk of its constraints, and the answer is
what they select. -/
theorem exists_plan_of_answer {s : σ} {l : List ε}
    (h : (search entities clauses fields tests paging request).outcome s = .ok l) :
    ∃ plan, FilterPlan.ofFilters request.filters fields tests.keys = .ok plan ∧
      (∀ x ∈ entities, ∀ e, ¬ StopsWith plan.remaining x e) ∧
      l = (planQuery tests paging request plan).cut (sort clauses
        (entities.filter (selects plan.remaining (askedTests tests plan.named)))) := by
  cases hplan : FilterPlan.ofFilters request.filters fields tests.keys with
  | error e =>
    rw [outcome_of_plan_error entities clauses fields tests paging request hplan] at h
    cases h
  | ok plan =>
    have hnone : ∀ x ∈ entities, ∀ e, ¬ StopsWith plan.remaining x e := by
      by_contra! hsome
      obtain ⟨before, entity, after, e, hsplit, hbefore, hstop⟩ := exists_first_stopsWith hsome
      rw [outcome_of_stopsWith clauses fields tests paging request hplan hsplit hbefore hstop] at h
      cases h
    rw [outcome_of_not_stopsWith entities clauses fields tests paging request hplan hnone] at h
    exact ⟨plan, rfl, hnone, (Except.ok.inj h).symm⟩

end

/-! ### The result -/

/-- **A search in memory finds exactly the entities of which everything is true.** Where the walk of
some entity stops, the result is the error of the first such entity. Otherwise it is the part that
the page cuts out of the one stable arrangement of those entities by the clauses; without clauses
that is their order in the source. -/
theorem search_finds_exactly (entities : List ε) (clauses : List SortClause)
    (fields : List String) (tests : OrderedMap (Scalar → ε → Bool)) (paging : Option Paging)
    (request : Request) (plan : FilterPlan)
    (h : FilterPlan.ofFilters request.filters fields tests.keys = .ok plan) (s : σ) :
    let constraints := plan.constraints.filter fun c => c.field ∉ plan.named.map Prod.fst
    let found := entities.filter (selects constraints (askedTests tests plan.named))
    let outcome := (search entities clauses fields tests paging request).outcome s
    ((∃ x ∈ entities, ∃ e, StopsWith constraints x e) →
      ∃ before entity after e, entities = before ++ entity :: after ∧
        (∀ x ∈ before, ∀ e', ¬ StopsWith constraints x e') ∧ StopsWith constraints entity e ∧
        outcome = .error e) ∧
    ((∀ x ∈ entities, ∀ e, ¬ StopsWith constraints x e) →
      ∃ sorted, StablySorted (SortClause.compareBy clauses) found sorted ∧
        (∀ other, StablySorted (SortClause.compareBy clauses) found other → other = sorted) ∧
        sorted.Perm found ∧ (clauses = [] → sorted = found) ∧
        outcome = .ok (paging.elim sorted fun paging =>
          let window := paging.window request.page request.perPage
          (sorted.drop window.offset.toNat).take window.limit.toNat)) := by
  intro constraints found outcome
  have hconstraints : plan.remaining = constraints := plan.remaining_eq
  constructor
  · intro hsome
    obtain ⟨before, entity, after, e, hsplit, hbefore, hstop⟩ := exists_first_stopsWith hsome
    refine ⟨before, entity, after, e, hsplit, hbefore, hstop, ?_⟩
    rw [← hconstraints] at hbefore hstop
    exact outcome_of_stopsWith clauses fields tests paging request h hsplit hbefore hstop s
  · intro hnone
    have hsorted : StablySorted (SortClause.compareBy clauses) found (sort clauses found) :=
      stablySorted_mergeSort found
    refine ⟨sort clauses found, hsorted, fun other hother => hsorted.unique hother,
      hsorted.perm, ?_, ?_⟩
    · -- without clauses no two entities are out of order
      rintro rfl
      exact List.mergeSort_of_pairwise (List.pairwise_of_forall fun _ _ => rfl)
    · rw [← hconstraints] at hnone
      have houtcome :=
        outcome_of_not_stopsWith entities clauses fields tests paging request h hnone s
      rw [hconstraints] at houtcome
      refine houtcome.trans ?_
      cases paging <;> rfl

/-- Of four rows one is too cheap and one is not in stock; the other two tie, and the second page
holds the later one. Prices that are no numbers fail the search, and it is the first of them that
does. -/
theorem search_finds_exactly_second_page :
    let lamp : Row := ⟨[("name", .string "lamp"), ("price", .signed 20), ("stock", .signed 4)]⟩
    let sofa : Row := ⟨[("name", .string "sofa"), ("price", .signed 90), ("stock", .signed 0)]⟩
    let rug : Row := ⟨[("name", .string "rug"), ("price", .signed 14), ("stock", .signed 3)]⟩
    let desk : Row := ⟨[("name", .string "desk"), ("price", .signed 20), ("stock", .signed 1)]⟩
    let gift : Row := ⟨[("name", .string "gift"), ("price", .string "free")]⟩
    let loan : Row := ⟨[("name", .string "loan"), ("price", .bool false)]⟩
    let available : OrderedMap (Scalar → Row → Bool) :=
      (∅ : OrderedMap _).insert "available" fun _ row => !(field row "stock").same (.signed 0)
    let filters : Filters := .ofList [("price_gte", .signed 15), ("available", .bool true)]
    let plan : FilterPlan :=
      ⟨[⟨"price", ⟨.greaterOrEqual, false⟩, .signed 15⟩], [("available", .bool true)]⟩
    let found := fun rows : List Row =>
      (search rows [⟨"price", .descending⟩] ["price"] available (some {})
        { filters, page := some 2, perPage := some 1 }).outcome ()
    FilterPlan.ofFilters filters ["price"] available.keys = .ok plan ∧
      found [lamp, sofa, rug, desk] = .ok [desk] ∧
      found [lamp, rug, gift, loan] =
        .error (.typeMismatch "price" .greaterOrEqual [.string] .number) := by
  intro lamp sofa rug desk gift loan available filters plan found
  have hplan : FilterPlan.ofFilters filters ["price"] available.keys = .ok plan := rfl
  have hfinds := fun rows : List Row => search_finds_exactly rows [⟨"price", .descending⟩] ["price"]
    available (some {}) { filters, page := some 2, perPage := some 1 } plan hplan ()
  have hlamp : ∀ e, ¬ StopsWith plan.constraints lamp e := by
    simp only [← (satisfies_eq _ _).1]
    exact fun _ => nofun
  have hrug : ∀ e, ¬ StopsWith plan.constraints rug e := by
    simp only [← (satisfies_eq _ _).1]
    exact fun _ => nofun
  have hgift : ∀ e, StopsWith plan.constraints gift e ↔
      .typeMismatch "price" .greaterOrEqual [.string] .number = e := by
    simp only [← (satisfies_eq _ _).1]
    exact fun _ => ⟨Except.error.inj, congrArg _⟩
  refine ⟨hplan, ?_, ?_⟩
  · have hnone : ∀ x ∈ [lamp, sofa, rug, desk], ∀ e, ¬ StopsWith plan.constraints x e := by
      simp only [List.forall_mem_cons, ← (satisfies_eq _ _).1]
      exact ⟨fun _ => nofun, fun _ => nofun, fun _ => nofun, fun _ => nofun, nofun⟩
    obtain ⟨sorted, -, hunique, -, -, houtcome⟩ := (hfinds _).2 hnone
    have hsorted : [lamp, desk] = sorted := by
      refine hunique _ ⟨[(lamp, 0), (desk, 1)], .refl _, ?_, rfl⟩
      exact .cons (by simp; exact .inr ⟨rfl, by decide⟩) (.cons nofun .nil)
    rw [← hsorted] at houtcome
    exact houtcome
  · have hsome : ∃ x ∈ [lamp, rug, gift, loan], ∃ e, StopsWith plan.constraints x e :=
      ⟨gift, by simp, _, (hgift _).2 rfl⟩
    obtain ⟨before, row, after, e, hsplit, hbefore, hstop, houtcome⟩ := (hfinds _).1 hsome
    -- the rows before the gift do not stop the walk, so it is the first row that does
    match before with
    | [] =>
      obtain rfl : lamp = row := (List.cons.inj hsplit).1
      exact absurd hstop (hlamp e)
    | [_] =>
      obtain rfl : rug = row := (List.cons.inj (List.cons.inj hsplit).2).1
      exact absurd hstop (hrug e)
    | [_, _] =>
      obtain rfl : gift = row := (List.cons.inj (List.cons.inj (List.cons.inj hsplit).2).2).1
      exact (hgift e).1 hstop ▸ houtcome
    | _ :: _ :: x :: _ =>
      obtain rfl : gift = x := (List.cons.inj (List.cons.inj (List.cons.inj hsplit).2).2).1
      exact absurd ((hgift _).2 rfl) (hbefore gift (by simp) _)

end KeyedFilter.Memory
