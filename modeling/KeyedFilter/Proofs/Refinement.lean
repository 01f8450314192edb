import Mathlib.Data.List.Basic
import KeyedFilter.Source
import KeyedFilter.Proofs.FilterPlan

/-!
# Refining a query step by step

What is done to a query is a list of steps: registered filters are applied, constraints are put in,
a window is cut out. `Performs` says how a run of steps goes, for a source that may refuse any step
and may change its state with each; it ends with the last step or with the first one that is
refused.

* `foldlM_performs`: a fold over steps performs them all, or those up to the first that is refused.
* `refine_eq_foldlM`: the steps of a filter plan.
-/

namespace KeyedFilter

variable {σ Q ε α β : Type}

/-! ### Actions -/

theorem run_bind_of_eq {action : StateM σ α} {next : α → StateM σ β} {s s₁ : σ} {a : α}
    (h : action s = (a, s₁)) : (action >>= next) s = next a s₁ := by
  show StateT.bind action next s = _
  simp only [StateT.bind]
  rw [h]
  rfl

namespace Action

theorem run_bind_of_ok {action : Action σ α} {next : α → Action σ β} {s s₁ : σ} {a : α}
    (h : action.run s = (.ok a, s₁)) : (action >>= next).run s = (next a).run s₁ := by
  rw [ExceptT.run_bind]
  exact run_bind_of_eq h

theorem run_bind_of_error {action : Action σ α} {next : α → Action σ β} {s s₁ : σ}
    {e : FilterError} (h : action.run s = (.error e, s₁)) :
    (action >>= next).run s = (.error e, s₁) := by
  rw [ExceptT.run_bind]
  exact run_bind_of_eq h

end Action

/-! ### Steps -/

/-- What is done to a query. -/
inductive QueryStep (Q : Type) where
  /-- A registered filter is applied to it, with an operand. -/
  | apply (filter : Q → Scalar → Q) (operand : Scalar)
  /-- A constraint is put into it. -/
  | constrain (c : Constraint)
  /-- A part of its result is asked for. -/
  | cut (window : Window)

namespace Source

/-- Takes one step. Applying a filter asks nothing of the source and cannot fail. -/
def take (source : Source σ Q ε) (query : Q) : QueryStep Q → Action σ Q
  | .apply filter operand => pure (filter query operand)
  | .constrain c => source.constrain query c
  | .cut window => source.cut query window

/-- The steps are performed in order, each on the query that the one before has returned. Only the
last one may be refused, and then its error is the outcome. -/
inductive Performs (source : Source σ Q ε) :
    List (QueryStep Q) → Q → σ → Except FilterError Q → σ → Prop
  | done {query s} : Performs source [] query s (.ok query) s
  | next {step rest query query' s s₁ outcome s'} :
      (source.take query step).run s = (.ok query', s₁) →
      Performs source rest query' s₁ outcome s' →
      Performs source (step :: rest) query s outcome s'
  | refused {step query s e s'} :
      (source.take query step).run s = (.error e, s') →
      Performs source [step] query s (.error e) s'

theorem Performs.exists_refused {source : Source σ Q ε} {performed : List (QueryStep Q)} {query : Q}
    {s s' : σ} {e : FilterError} (h : source.Performs performed query s (.error e) s') :
    ∃ front last query₁ s₁, performed = front ++ [last] ∧
      source.Performs front query s (.ok query₁) s₁ ∧
      (source.take query₁ last).run s₁ = (.error e, s') := by
  generalize houtcome : Except.error e = outcome at h
  induction h with
  | done => cases houtcome
  | next hstep _ ih =>
    obtain ⟨front, last, query₁, s₁, rfl, hfront, hlast⟩ := ih houtcome
    exact ⟨_ :: front, last, query₁, s₁, rfl, .next hstep hfront, hlast⟩
  | refused hstep =>
    cases houtcome
    exact ⟨[], _, _, _, rfl, .done, hstep⟩

/-- **A fold over steps performs them all, or those up to the first that is refused.** -/
theorem foldlM_performs (source : Source σ Q ε) (steps : List (QueryStep Q)) (query : Q) (s : σ) :
    ∃ performed outcome s', (steps.foldlM source.take query).run s = (outcome, s') ∧
      source.Performs performed query s outcome s' ∧ performed <+: steps ∧
      ((∃ query', outcome = .ok query') → performed = steps) := by
  induction steps generalizing query s with
  | nil => exact ⟨[], .ok query, s, rfl, .done, List.prefix_rfl, fun _ => rfl⟩
  | cons step rest ih =>
    rw [List.foldlM_cons]
    rcases hstep : (source.take query step).run s with ⟨outcome, s₁⟩
    cases outcome with
    | error e =>
      refine ⟨[step], .error e, s₁, Action.run_bind_of_error hstep, .refused hstep, ?_, ?_⟩
      · exact List.prefix_append [step] rest
      · rintro ⟨query', h⟩
        cases h
    | ok query' =>
      obtain ⟨performed, outcome, s', hrun, hperf, hinit, hall⟩ := ih query' s₁
      refine ⟨step :: performed, outcome, s', ?_, .next hstep hperf, ?_, fun h => ?_⟩
      · rw [Action.run_bind_of_ok hstep, hrun]
      · exact (List.prefix_cons_inj step).2 hinit
      · rw [hall h]

/-- Steps that are performed up to the end, or up to a refusal, are what a fold over them does. -/
theorem Performs.foldlM_eq {source : Source σ Q ε} {performed steps : List (QueryStep Q)}
    {query : Q} {s s' : σ} {outcome : Except FilterError Q}
    (h : source.Performs performed query s outcome s') (hinit : performed <+: steps)
    (hall : (∃ query', outcome = .ok query') → performed = steps) :
    (steps.foldlM source.take query).run s = (outcome, s') := by
  induction h generalizing steps with
  | done =>
    obtain rfl := hall ⟨_, rfl⟩
    rfl
  | next hstep _ ih =>
    obtain ⟨rest', rfl⟩ := hinit
    rw [List.cons_append, List.foldlM_cons, Action.run_bind_of_ok hstep]
    refine ih (List.prefix_append _ _) fun hok => ?_
    have heq := hall hok
    rw [List.cons_append] at heq
    exact (List.cons.inj heq).2
  | refused hstep =>
    obtain ⟨rest', rfl⟩ := hinit
    rw [List.cons_append, List.foldlM_cons, Action.run_bind_of_error hstep]

end Source

/-! ### The steps of a filter plan -/

/-- The applications of the registered filters among some names with operands. -/
def NamedFilters.steps (registered : NamedFilters Q) (named : List (String × Scalar)) :
    List (QueryStep Q) :=
  named.filterMap fun entry => (registered.get? entry.1).map fun filter => .apply filter entry.2

/-- The steps of a plan: the registered filters first, then the constraints that are left. -/
def FilterPlan.steps (plan : FilterPlan) (registered : NamedFilters Q) : List (QueryStep Q) :=
  registered.steps plan.named ++ plan.remaining.map .constrain

/-- What a request asks for by registered names is what stands under them, in their order. -/
theorem NamedFilters.steps_asked (registered : NamedFilters Q) (filters : Filters) :
    registered.steps (FilterPlan.asked filters registered.keys) =
      registered.entries.filterMap fun entry => (filters.get? entry.1).map (.apply entry.2) := by
  rw [NamedFilters.steps, FilterPlan.asked, OrderedMap.keys, List.filterMap_map,
    List.filterMap_filterMap]
  apply List.filterMap_congr
  intro entry hentry
  have hget : registered.get? entry.1 = some entry.2 :=
    (registered.get?_eq_some_iff).2 hentry
  cases hoperand : filters.get? entry.1 with
  | none => simp [hoperand]
  | some operand => simp [hoperand, hget]

theorem FilterPlan.covers_iff (plan : FilterPlan) (field : String) :
    plan.covers field = true ↔ field ∈ plan.named.map Prod.fst := by
  simp [covers]

theorem FilterPlan.remaining_eq (plan : FilterPlan) :
    plan.remaining = plan.constraints.filter fun c => c.field ∉ plan.named.map Prod.fst := by
  rw [remaining]
  apply List.filter_congr
  intro c _
  rw [Bool.eq_iff_iff, decide_eq_true_iff, ← covers_iff]
  simp

/-- The steps of a plan in terms of the request that it is for. -/
theorem FilterPlan.steps_eq {registered : NamedFilters Q} {filters : Filters} {fields : List String}
    {plan : FilterPlan} (h : ofFilters filters fields registered.keys = .ok plan) :
    plan.steps registered =
      (registered.entries.filterMap fun entry =>
        (filters.get? entry.1).map fun operand => .apply entry.2 operand) ++
      (plan.constraints.filter fun c => c.field ∉ plan.named.map Prod.fst).map .constrain := by
  rw [steps, named_eq h, NamedFilters.steps_asked, remaining_eq, named_eq h]

namespace Source

theorem foldlM_steps (source : Source σ Q ε) (registered : NamedFilters Q)
    (named : List (String × Scalar)) (query : Q) :
    (registered.steps named).foldlM source.take query =
      pure (named.foldl (fun query entry =>
        (registered.get? entry.1).elim query fun filter => filter query entry.2) query) := by
  induction named generalizing query with
  | nil => rfl
  | cons entry rest ih =>
    rw [NamedFilters.steps, List.filterMap_cons, List.foldl_cons, ← ih]
    cases hget : registered.get? entry.1 with
    | none => rfl
    | some filter =>
      rw [Option.map_some, List.foldlM_cons, take, pure_bind]
      rfl

theorem refine_eq_foldlM (source : Source σ Q ε) (registered : NamedFilters Q)
    (plan : FilterPlan) (query : Q) :
    source.refine registered plan query = (plan.steps registered).foldlM source.take query := by
  rw [FilterPlan.steps, List.foldlM_append, foldlM_steps, pure_bind, List.foldlM_map]
  rfl

end Source

end KeyedFilter
