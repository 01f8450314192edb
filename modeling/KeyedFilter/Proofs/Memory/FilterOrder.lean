import Mathlib.Tactic.FinCases
import KeyedFilter.Proofs.Memory.Results

/-!
# The order of the filters in a request

Two requests with the same filters in different orders have plans with the same constraints, and if
both are answered, the answers are the same list. The order still decides which constraint of an
entity is evaluated first, and an entity of which that one is not true is left out before another
one fails on it. So one of the requests may be answered and the other one fail, and they do the same
exactly when the walk of some entity stops in both orders or in neither.

* `SameOutcome`: the same list, or a failure of both.
* `sameOutcome_iff_stop_together`: when two orders of the filters do the same.
* `sameOutcome_in_all_orders_iff`: on which entities all orders do.
* `filter_order_matters`: two orders of which one fails.
-/

namespace KeyedFilter.Memory

variable {σ ε : Type}

/-- The same list twice, or two errors. -/
def SameOutcome (a b : Except FilterError (List ε)) : Prop :=
  (∃ l, a = .ok l ∧ b = .ok l) ∨ ((∃ e, a = .error e) ∧ ∃ e, b = .error e)

theorem sameOutcome_iff {a b : Except FilterError (List ε)}
    (h : ∀ l₁ l₂, a = .ok l₁ → b = .ok l₂ → l₁ = l₂) :
    SameOutcome a b ↔ ((∃ e, a = .error e) ↔ ∃ e, b = .error e) := by
  unfold SameOutcome
  cases a <;> cases b <;> simp_all

variable [HasFields ε]

/-- On the entity, no constraint fails, or none is false. -/
def OrderBlind (constraints : List Constraint) (entity : ε) : Prop :=
  (∀ c ∈ constraints, ∀ e, c.holds (field entity c.field) ≠ .error e) ∨
    ∀ c ∈ constraints, c.holds (field entity c.field) ≠ .ok false

/-- Where no constraint is false of an entity, each one that fails stops the walk in every order. -/
theorem exists_stopsWith_iff_exists_error {constraints : List Constraint} {entity : ε}
    (h : ∀ c ∈ constraints, c.holds (field entity c.field) ≠ .ok false) :
    (∃ e, StopsWith constraints entity e) ↔
      ∃ c ∈ constraints, ∃ e, c.holds (field entity c.field) = .error e := by
  constructor
  · rintro ⟨e, front, c, rest, rfl, -, hc⟩
    exact ⟨c, by simp, e, hc⟩
  · intro hfails
    induction constraints with
    | nil => simp at hfails
    | cons c rest ih =>
      rw [List.forall_mem_cons] at h
      cases hc : c.holds (field entity c.field) with
      | error e => exact ⟨e, (stopsWith_cons_of_ne_true (by simp [hc])).2 hc⟩
      | ok holds =>
        cases holds with
        | false => exact absurd hc h.1
        | true =>
          have hrest : ∃ d ∈ rest, ∃ e, d.holds (field entity d.field) = .error e := by
            simpa [hc] using hfails
          obtain ⟨e, he⟩ := ih h.2 hrest
          exact ⟨e, (stopsWith_cons_of_true hc).2 he⟩

theorem OrderBlind.exists_stopsWith_iff {constraints constraints' : List Constraint}
    (hperm : constraints.Perm constraints') {entity : ε} (h : OrderBlind constraints entity) :
    (∃ e, StopsWith constraints entity e) ↔ ∃ e, StopsWith constraints' entity e := by
  rcases h with hall | hall
  · have hnone : ∀ l : List Constraint, (∀ c ∈ l, c ∈ constraints) →
        ¬ ∃ e, StopsWith l entity e := by
      rintro l hl ⟨e, front, c, rest, rfl, -, hc⟩
      exact hall c (hl c (by simp)) e hc
    exact iff_of_false (hnone _ fun _ => id) (hnone _ fun _ => hperm.mem_iff.2)
  · have hall' : ∀ c ∈ constraints', c.holds (field entity c.field) ≠ .ok false :=
      fun c hc => hall c (hperm.mem_iff.2 hc)
    rw [exists_stopsWith_iff_exists_error hall, exists_stopsWith_iff_exists_error hall']
    simp only [hperm.mem_iff]

/-! ### Two orders of the filters of a request -/

/-- The request has a plan, and with it the walk of some entity stops. -/
def StopsOn (entities : List ε) (fields : List String)
    (tests : OrderedMap (Scalar → ε → Bool)) (request : Request) : Prop :=
  ∃ plan, FilterPlan.ofFilters request.filters fields tests.keys = .ok plan ∧
    ∃ x ∈ entities, ∃ e, StopsWith plan.remaining x e

section

variable {entities : List ε} {fields : List String} {tests : OrderedMap (Scalar → ε → Bool)}
  {request : Request} {plan : FilterPlan}

theorem stopsOn_iff (h : FilterPlan.ofFilters request.filters fields tests.keys = .ok plan) :
    StopsOn entities fields tests request ↔
      ∃ x ∈ entities, ∃ e, StopsWith plan.remaining x e := by
  simp [StopsOn, h]

theorem not_stopsOn {e : FilterError}
    (h : FilterPlan.ofFilters request.filters fields tests.keys = .error e) :
    ¬ StopsOn entities fields tests request := by
  simp [StopsOn, h]

end

section

variable (entities : List ε) (clauses : List SortClause) (fields : List String)
  (tests : OrderedMap (Scalar → ε → Bool)) (paging : Option Paging)

/-- A search fails when its request has no plan or the walk of some entity stops. -/
theorem exists_outcome_error_iff (request : Request) (s : σ) :
    (∃ e, (search entities clauses fields tests paging request).outcome s = .error e) ↔
      (∃ e, FilterPlan.ofFilters request.filters fields tests.keys = .error e) ∨
        StopsOn entities fields tests request := by
  cases hplan : FilterPlan.ofFilters request.filters fields tests.keys with
  | error e => simp [outcome_of_plan_error entities clauses fields tests paging request hplan]
  | ok plan =>
    rw [stopsOn_iff hplan]
    constructor
    · rintro ⟨e, he⟩
      refine .inr ?_
      by_contra hnone
      push Not at hnone
      rw [outcome_of_not_stopsWith entities clauses fields tests paging request hplan hnone] at he
      cases he
    · rintro (⟨e, he⟩ | hsome)
      · cases he
      · obtain ⟨before, entity, after, e, hsplit, hbefore, hstop⟩ := exists_first_stopsWith hsome
        exact ⟨e, outcome_of_stopsWith clauses fields tests paging request hplan hsplit hbefore
          hstop s⟩

variable (r₁ r₂ : Request)

/-- Two orders of the same filters never give two different answers. -/
theorem answer_unique (hfilters : r₁.filters.entries.Perm r₂.filters.entries)
    (hpage : r₁.page = r₂.page) (hperPage : r₁.perPage = r₂.perPage) {s : σ} {l₁ l₂ : List ε}
    (h₁ : (search entities clauses fields tests paging r₁).outcome s = .ok l₁)
    (h₂ : (search entities clauses fields tests paging r₂).outcome s = .ok l₂) : l₁ = l₂ := by
  obtain ⟨p₁, hplan₁, -, rfl⟩ := exists_plan_of_answer h₁
  obtain ⟨p₂, hplan₂, -, rfl⟩ := exists_plan_of_answer h₂
  obtain ⟨p, hplan, hconstraints, hnamed⟩ := FilterPlan.exists_ofFilters_perm hfilters hplan₁
  obtain rfl : p = p₂ := Except.ok.inj (hplan.symm.trans hplan₂)
  -- both queries select the same entities and cut out the same part of them
  have hselects : selects p₁.remaining (askedTests tests p₁.named) =
      selects p.remaining (askedTests tests p.named) := by
    rw [selects_eq_of_perm (FilterPlan.remaining_perm hconstraints hnamed), hnamed]
  rw [hselects]
  simp only [Query.cut, planQuery, hpage, hperPage]

theorem sameOutcome_iff_stopsOn (hfilters : r₁.filters.entries.Perm r₂.filters.entries)
    (hpage : r₁.page = r₂.page) (hperPage : r₁.perPage = r₂.perPage) (s : σ) :
    SameOutcome ((search entities clauses fields tests paging r₁).outcome s)
        ((search entities clauses fields tests paging r₂).outcome s) ↔
      (StopsOn entities fields tests r₁ ↔ StopsOn entities fields tests r₂) := by
  have hplans : (∃ e, FilterPlan.ofFilters r₁.filters fields tests.keys = .error e) ↔
      ∃ e, FilterPlan.ofFilters r₂.filters fields tests.keys = .error e :=
    ⟨FilterPlan.ofFilters_error_of_perm hfilters, FilterPlan.ofFilters_error_of_perm hfilters.symm⟩
  rw [sameOutcome_iff fun _ _ =>
      answer_unique entities clauses fields tests paging r₁ r₂ hfilters hpage hperPage,
    exists_outcome_error_iff, exists_outcome_error_iff, hplans]
  by_cases hvalid : ∃ e, FilterPlan.ofFilters r₂.filters fields tests.keys = .error e
  · obtain ⟨e₁, he₁⟩ := hplans.2 hvalid
    obtain ⟨e₂, he₂⟩ := hvalid
    simp [he₂, not_stopsOn he₁, not_stopsOn he₂]
  · simp [hvalid]

theorem stopsOn_iff_of_orderBlind (hfilters : r₁.filters.entries.Perm r₂.filters.entries)
    (hblind : ∀ plan, FilterPlan.ofFilters r₁.filters fields tests.keys = .ok plan →
      ∀ x ∈ entities, OrderBlind plan.remaining x) :
    StopsOn entities fields tests r₁ ↔ StopsOn entities fields tests r₂ := by
  cases hplan₁ : FilterPlan.ofFilters r₁.filters fields tests.keys with
  | error e₁ =>
    obtain ⟨e₂, hplan₂⟩ := FilterPlan.ofFilters_error_of_perm hfilters ⟨e₁, hplan₁⟩
    exact iff_of_false (not_stopsOn hplan₁) (not_stopsOn hplan₂)
  | ok p₁ =>
    obtain ⟨p₂, hplan₂, hconstraints, hnamed⟩ := FilterPlan.exists_ofFilters_perm hfilters hplan₁
    have hperm := FilterPlan.remaining_perm hconstraints hnamed
    rw [stopsOn_iff hplan₁, stopsOn_iff hplan₂]
    refine exists_congr fun x => and_congr_right fun hx => ?_
    exact (hblind p₁ hplan₁ x hx).exists_stopsWith_iff hperm

/-- **The order of the filters matters exactly when the walk of some entity stops in one order, and
of none in the other.** Two answers are the same list in any case, and no entity makes a difference
on which no constraint fails, or none is false. -/
theorem sameOutcome_iff_stop_together
    (hfilters : r₁.filters.entries.Perm r₂.filters.entries) (hpage : r₁.page = r₂.page)
    (hperPage : r₁.perPage = r₂.perPage) (s : σ) :
    let outcome := fun request =>
      (search entities clauses fields tests paging request).outcome s
    (SameOutcome (outcome r₁) (outcome r₂) ↔
      (StopsOn entities fields tests r₁ ↔ StopsOn entities fields tests r₂)) ∧
    (∀ l₁ l₂, outcome r₁ = .ok l₁ → outcome r₂ = .ok l₂ → l₁ = l₂) ∧
    ((∀ plan, FilterPlan.ofFilters r₁.filters fields tests.keys = .ok plan → ∀ x ∈ entities,
        OrderBlind plan.remaining x) → SameOutcome (outcome r₁) (outcome r₂)) := by
  intro outcome
  have hsame : SameOutcome (outcome r₁) (outcome r₂) ↔
      (StopsOn entities fields tests r₁ ↔ StopsOn entities fields tests r₂) :=
    sameOutcome_iff_stopsOn entities clauses fields tests paging r₁ r₂ hfilters hpage hperPage s
  refine ⟨hsame, fun _ _ => ?_, fun hblind => hsame.2 ?_⟩
  · exact answer_unique entities clauses fields tests paging r₁ r₂ hfilters hpage hperPage
  · exact stopsOn_iff_of_orderBlind entities fields tests r₁ r₂ hfilters hblind

/-- **An entity is what makes the order matter when one constraint fails on it and another one is
false of it.** Where it stands alone in the source, no other entity does. -/
theorem sameOutcome_in_all_orders_iff (entity : ε) (request : Request) (s : σ) :
    (∀ filters' : Filters, request.filters.entries.Perm filters'.entries →
      SameOutcome ((search [entity] clauses fields tests paging request).outcome s)
        ((search [entity] clauses fields tests paging
          { request with filters := filters' }).outcome s)) ↔
      ∀ plan, FilterPlan.ofFilters request.filters fields tests.keys = .ok plan →
        OrderBlind plan.remaining entity := by
  have hiff : ∀ filters' : Filters, request.filters.entries.Perm filters'.entries →
      (SameOutcome ((search [entity] clauses fields tests paging request).outcome s)
          ((search [entity] clauses fields tests paging
            { request with filters := filters' }).outcome s) ↔
        (StopsOn [entity] fields tests request ↔
          StopsOn [entity] fields tests { request with filters := filters' })) := by
    intro filters' hperm
    exact sameOutcome_iff_stopsOn [entity] clauses fields tests paging request
      { request with filters := filters' } hperm rfl rfl s
  constructor
  · intro hsame plan hplan
    by_contra hnot
    simp only [OrderBlind, not_or, not_forall, not_not] at hnot
    obtain ⟨⟨c, hc, e, hfails⟩, d, hd, hfalse⟩ := hnot
    -- the order that starts with `c` stops at the entity, the one that starts with `d` does not
    obtain ⟨filters₁, hperm₁, p₁, rest₁, hplan₁, hfirst₁⟩ :=
      FilterPlan.exists_remaining_cons hplan hc
    obtain ⟨filters₂, hperm₂, p₂, rest₂, hplan₂, hfirst₂⟩ :=
      FilterPlan.exists_remaining_cons hplan hd
    have hstops : StopsOn [entity] fields tests { request with filters := filters₁ } := by
      refine ⟨p₁, hplan₁, entity, List.mem_singleton_self entity, e, ?_⟩
      rw [hfirst₁]
      exact (stopsWith_cons_of_ne_true (by simp [hfails])).2 hfails
    have hpasses : ¬ StopsOn [entity] fields tests { request with filters := filters₂ } := by
      have hplan₂' : FilterPlan.ofFilters { request with filters := filters₂ }.filters fields
          tests.keys = .ok p₂ := hplan₂
      rw [stopsOn_iff hplan₂', hfirst₂]
      rintro ⟨x, hx, e', hstop⟩
      obtain rfl := List.mem_singleton.1 hx
      rw [stopsWith_cons_of_ne_true (by simp [hfalse]), hfalse] at hstop
      cases hstop
    rw [← (hiff filters₁ hperm₁).1 (hsame filters₁ hperm₁)] at hstops
    rw [← (hiff filters₂ hperm₂).1 (hsame filters₂ hperm₂)] at hpasses
    exact hpasses hstops
  · intro hblind filters' hperm
    refine (hiff filters' hperm).2 ?_
    refine stopsOn_iff_of_orderBlind [entity] fields tests request
      { request with filters := filters' } hperm fun plan hplan x hx => ?_
    obtain rfl := List.mem_singleton.1 hx
    exact hblind plan hplan

end

/-- On these rows no constraint fails, so both orders do the same. -/
theorem sameOutcome_iff_stop_together_prices :
    let lamp : Row := ⟨[("name", .string "lamp"), ("price", .signed 20)]⟩
    let desk : Row := ⟨[("name", .string "desk"), ("price", .signed 30)]⟩
    let first : Filters := .ofList [("name_sw", .string "d"), ("price_gt", .signed 25)]
    let second : Filters := .ofList [("price_gt", .signed 25), ("name_sw", .string "d")]
    first.entries.Perm second.entries ∧
      SameOutcome
        ((search [lamp, desk] [] ["name", "price"] ∅ none { filters := first }).outcome ())
        ((search [lamp, desk] [] ["name", "price"] ∅ none { filters := second }).outcome ()) := by
  intro lamp desk first second
  have hperm : first.entries.Perm second.entries := .swap _ _ _
  refine ⟨hperm, (sameOutcome_iff_stop_together [lamp, desk] [] ["name", "price"] ∅ none
    { filters := first } { filters := second } hperm rfl rfl ()).2.2 ?_⟩
  rintro plan hplan x hx
  obtain rfl : _ = plan := Except.ok.inj hplan
  refine .inl fun c hc e => ?_
  fin_cases hx <;> fin_cases hc <;> exact nofun

/-- **Two orders of the same filters, of which one fails.** The name rules the row out before its
price, which is not a text, is compared with one. -/
theorem filter_order_matters :
    let lamp : Row := ⟨[("name", .string "lamp"), ("price", .signed 20)]⟩
    let first : Filters := .ofList [("name_eq", .string "desk"), ("price_sw", .string "2")]
    let second : Filters := .ofList [("price_sw", .string "2"), ("name_eq", .string "desk")]
    let outcome := fun filters : Filters =>
      (search [lamp] [] ["name", "price"] ∅ none { filters }).outcome ()
    first.entries.Perm second.entries ∧ outcome first = .ok [] ∧
      outcome second = .error (.typeMismatch "price" .startsWith [.string] .number) ∧
      ¬ SameOutcome (outcome first) (outcome second) := by
  intro lamp first second outcome
  have hfirst : outcome first = .ok [] := by
    have hsort : outcome first = .ok (sort [] []) := rfl
    rw [hsort, sort, List.mergeSort_nil]
  have hsecond :
      outcome second = .error (.typeMismatch "price" .startsWith [.string] .number) := rfl
  refine ⟨.swap _ _ _, hfirst, hsecond, ?_⟩
  rw [hfirst, hsecond]
  rintro (⟨l, -, h⟩ | ⟨⟨e, h⟩, -⟩)
  · cases h
  · cases h

end KeyedFilter.Memory
