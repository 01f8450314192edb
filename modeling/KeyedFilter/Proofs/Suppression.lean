import KeyedFilter.Journal
import KeyedFilter.Scalar.Conversion
import KeyedFilter.Proofs.Refinement

/-!
# Constraints that a registered filter stands in for

A plan leaves out the constraints on a field when a registered filter is asked for under the name of
that field. The plan only holds the name, and whether a filter stands under it is up to the
registered filters that the query is refined with. With the ones that the plan was made for, the
filter is there and is applied; with others it may be missing, and then the constraint is left out
for nothing.

* `Honoured`: a constraint is put in, or the filter for its field is applied.
* `honoured_iff_registered`: which constraints of a plan are honoured.
* `constraint_left_out_for_nothing`: one that is not.
-/

namespace KeyedFilter

variable {σ Q ε : Type}

/-- A constraint of a plan is honoured by some steps when it is put in itself, or when the filter
that is registered for its field is applied, with the operand that the plan has for it. -/
def Honoured (registered : NamedFilters Q) (plan : FilterPlan) (steps : List (QueryStep Q))
    (c : Constraint) : Prop :=
  .constrain c ∈ steps ∨ ∃ filter operand, registered.get? c.field = some filter ∧
    (c.field, operand) ∈ plan.named ∧ .apply filter operand ∈ steps

namespace FilterPlan

variable {plan : FilterPlan} {registered : NamedFilters Q}

theorem mem_remaining_iff {c : Constraint} :
    c ∈ plan.remaining ↔ c ∈ plan.constraints ∧ c.field ∉ plan.named.map Prod.fst := by
  rw [remaining_eq, List.mem_filter, decide_eq_true_iff]

theorem constrain_mem_steps_iff {c : Constraint} :
    .constrain c ∈ plan.steps registered ↔ c ∈ plan.remaining := by
  simp [steps, NamedFilters.steps]

theorem apply_mem_steps {name : String} {filter : Q → Scalar → Q} {operand : Scalar}
    (hnamed : (name, operand) ∈ plan.named) (hfilter : registered.get? name = some filter) :
    .apply filter operand ∈ plan.steps registered := by
  refine List.mem_append_left _ (List.mem_filterMap.2 ⟨(name, operand), hnamed, ?_⟩)
  rw [hfilter]
  rfl

/-- The steps of a plan honour a constraint unless its field is asked for under a name that is not
registered. -/
theorem honoured_steps_iff {c : Constraint} (hc : c ∈ plan.constraints) :
    Honoured registered plan (plan.steps registered) c ↔
      (c.field ∈ plan.named.map Prod.fst → c.field ∈ registered.keys) := by
  constructor
  · rintro (hconstrain | ⟨filter, operand, hfilter, -, -⟩) hasked
    · have hleft := mem_remaining_iff.1 (constrain_mem_steps_iff.1 hconstrain)
      exact absurd hasked hleft.2
    · exact registered.mem_keys_iff.2 ⟨filter, hfilter⟩
  · intro hregistered
    by_cases hasked : c.field ∈ plan.named.map Prod.fst
    · obtain ⟨filter, hfilter⟩ := registered.mem_keys_iff.1 (hregistered hasked)
      obtain ⟨⟨name, operand⟩, hnamed, rfl⟩ := List.mem_map.1 hasked
      exact .inr ⟨filter, operand, hfilter, hnamed, apply_mem_steps hnamed hfilter⟩
    · exact .inl (constrain_mem_steps_iff.2 (mem_remaining_iff.2 ⟨hc, hasked⟩))

/-- A plan asks for no other names than it was made for. -/
theorem mem_registered_of_asked {filters : Filters} {fields names : List String}
    (h : ofFilters filters fields names = .ok plan) {name : String}
    (hasked : name ∈ plan.named.map Prod.fst) : name ∈ names := by
  rw [named_eq h, map_fst_asked] at hasked
  exact List.mem_of_mem_filter hasked

end FilterPlan

/-- **A constraint is left out for nothing exactly when its field is asked for under a name that is
not registered.** Whenever a query is refined, the steps that are performed are those of the
registered filters that the plan asks for and then the constraints on fields without such a name;
with the registered filters that the plan was made for, every constraint is honoured. -/
theorem honoured_iff_registered (source : Source σ Q ε) (registered : NamedFilters Q)
    (plan : FilterPlan) (query query' : Q) (s s' : σ)
    (h : (source.refine registered plan query).run s = (.ok query', s')) :
    let steps : List (QueryStep Q) :=
      (plan.named.filterMap fun entry =>
        (registered.get? entry.1).map fun filter => .apply filter entry.2) ++
      (plan.constraints.filter fun c => c.field ∉ plan.named.map Prod.fst).map .constrain
    source.Performs steps query s (.ok query') s' ∧
    (∀ c ∈ plan.constraints, Honoured registered plan steps c ↔
      (c.field ∈ plan.named.map Prod.fst → c.field ∈ registered.keys)) ∧
    ∀ filters fields, FilterPlan.ofFilters filters fields registered.keys = .ok plan →
      ∀ c ∈ plan.constraints, Honoured registered plan steps c := by
  intro steps
  have hsteps : plan.steps registered = steps := by
    rw [FilterPlan.steps, FilterPlan.remaining_eq]
    rfl
  rw [← hsteps]
  refine ⟨?_, fun c hc => FilterPlan.honoured_steps_iff hc, fun filters fields hplan c hc => ?_⟩
  · obtain ⟨performed, outcome, s₁, hrun, hperf, -, hall⟩ :=
      source.foldlM_performs (plan.steps registered) query s
    rw [← Source.refine_eq_foldlM, h] at hrun
    cases hrun
    rw [← hall ⟨query', rfl⟩]
    exact hperf
  · exact (FilterPlan.honoured_steps_iff hc).2 (FilterPlan.mem_registered_of_asked hplan)

/-- Here `stock` is registered and stands in for the constraint on the field of that name. -/
theorem honoured_iff_registered_stock :
    let registered : NamedFilters (List (Journal.Entry String)) :=
      (∅ : NamedFilters _).insert "stock" (Journal.filter "in stock")
    let stock : Constraint := ⟨"stock", ⟨.less, false⟩, .signed 3⟩
    let name : Constraint := ⟨"name", ⟨.equals, true⟩, .string "lamp"⟩
    let plan : FilterPlan := ⟨[stock, name], [("stock", .bool true)]⟩
    let steps : List (QueryStep (List (Journal.Entry String))) :=
      [.apply (Journal.filter "in stock") (.bool true), .constrain name]
    ∃ s', ((Journal.source String).refine registered plan []).run {} =
        (.ok [.named "in stock" (.bool true), .constrain name], s') ∧
      Honoured registered plan steps stock ∧ Honoured registered plan steps name := by
  intro registered stock name plan steps
  have hrun : ((Journal.source String).refine registered plan []).run {} =
      (.ok [.named "in stock" (.bool true), .constrain name], _) := rfl
  obtain ⟨-, hiff, -⟩ :=
    honoured_iff_registered (Journal.source String) registered plan [] _ _ _ hrun
  exact ⟨_, hrun, (hiff stock (by simp [plan])).2 (by decide),
    (hiff name (by simp [plan])).2 (by decide)⟩

/-- **A constraint that is left out for nothing.** The plan was made for a registered filter `name`;
refining a query without it neither applies a filter nor puts in the constraint on that field. No
call is made, and the query stays as it was. -/
theorem constraint_left_out_for_nothing :
    let registered : NamedFilters (List (Journal.Entry String)) :=
      (∅ : NamedFilters _).insert "name" (Journal.filter "by name")
    let filters : Filters := .ofList [("name", .string "y"), ("name_eq", .string "x")]
    let c : Constraint := ⟨"name", ⟨.equals, false⟩, .string "x"⟩
    let plan : FilterPlan := ⟨[c], [("name", .string "y")]⟩
    FilterPlan.ofFilters filters ["name"] registered.keys = .ok plan ∧
      ((Journal.source String).refine ∅ plan []).run {} = (.ok [], {}) ∧
      (Journal.source String).Performs [] [] {} (.ok []) {} ∧
      ¬ Honoured (∅ : NamedFilters (List (Journal.Entry String))) plan [] c := by
  intro registered filters c plan
  refine ⟨rfl, rfl, .done, ?_⟩
  rintro (hconstrain | ⟨filter, operand, -, -, happly⟩)
  · cases hconstrain
  · cases happly

end KeyedFilter
