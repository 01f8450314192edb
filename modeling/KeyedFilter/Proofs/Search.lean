import KeyedFilter.Search
import KeyedFilter.Proofs.Recording

/-!
# How a search asks its source

An attempt to answer a request is one call that starts a query, the steps of the request's plan and
a window if results come in pages, and one call that runs the query. Only a search that has no
result makes one.

* `Search.steps`: the steps of an attempt.
* `Source.Attempt`: how an attempt goes, with the calls that it makes.
* `Search.exists_attempt`: without a result, and with a plan, a search makes one attempt.
-/

namespace KeyedFilter

variable {σ Q ε : Type}

/-- How an attempt goes: a query is started and taken through the steps, and then it is run, unless
a step is refused before. The calls are listed in order. -/
inductive Source.Attempt (source : Source σ Q ε) (steps : List (QueryStep Q)) (s : σ) :
    List Call → Except FilterError (List ε) → σ → Prop
  | refused {query s₁ performed e s'} :
      source.start s = (query, s₁) →
      source.Performs performed query s₁ (.error e) s' → performed <+: steps →
      Attempt source steps s (.start :: performed.filterMap QueryStep.call?) (.error e) s'
  | ran {query s₁ query' s₂ outcome s'} :
      source.start s = (query, s₁) →
      source.Performs steps query s₁ (.ok query') s₂ →
      (source.run query').run s₂ = (outcome, s') →
      Attempt source steps s (.start :: steps.filterMap QueryStep.call? ++ [.run]) outcome s'

/-- **The twin of a source makes the same attempt** and writes down its calls. -/
theorem Source.Attempt.recorded {source : Source σ Q ε} {steps : List (QueryStep Q)} {s s' : σ}
    {made : List Call} {outcome : Except FilterError (List ε)}
    (h : source.Attempt steps s made outcome s') (calls : List Call) :
    source.recorded.Attempt steps (s, calls) made outcome (s', calls ++ made) := by
  cases h with
  | refused hstart hperf hinit =>
    have hperf' := hperf.recorded (calls ++ [.start])
    rw [List.append_assoc] at hperf'
    exact .refused (record_of_eq hstart .start calls) hperf' hinit
  | ran hstart hperf hrun =>
    have hrun' := record_of_eq hrun .run
      (calls ++ [.start] ++ steps.filterMap QueryStep.call?)
    rw [List.append_assoc, List.append_assoc] at hrun'
    refine .ran (record_of_eq hstart .start calls) (hperf.recorded _) ?_
    rw [List.append_assoc]
    exact hrun'

namespace Search

/-- What a search answers when it is asked for its result in a state. -/
def outcome (search : Search σ Q ε) (s : σ) : Except FilterError (List ε) :=
  ((search.results).run s).1.1

/-- The search with a result. -/
def keep (search : Search σ Q ε) (entities : List ε) : Search σ Q ε :=
  { search with memo := some entities }

theorem results_of_memo {search : Search σ Q ε} {entities : List ε}
    (h : search.memo = some entities) (s : σ) :
    search.results.run s = ((.ok entities, search), s) := by
  rw [results, h]
  rfl

theorem results_of_ok {search : Search σ Q ε} (hmemo : search.memo = none) {s s' : σ}
    {entities : List ε} (h : search.attempt.run s = (.ok entities, s')) :
    search.results.run s = ((.ok entities, search.keep entities), s') := by
  rw [results, hmemo]
  exact run_bind_of_eq h

theorem results_of_error {search : Search σ Q ε} (hmemo : search.memo = none) {s s' : σ}
    {e : FilterError} (h : search.attempt.run s = (.error e, s')) :
    search.results.run s = ((.error e, search), s') := by
  rw [results, hmemo]
  exact run_bind_of_eq h

theorem outcome_of_memo_none {search : Search σ Q ε} (hmemo : search.memo = none) (s : σ) :
    search.outcome s = (search.attempt.run s).1 := by
  rcases h : search.attempt.run s with ⟨_ | entities, s'⟩
  · rw [outcome, results_of_error hmemo h]
  · rw [outcome, results_of_ok hmemo h]

/-! ### Attempts -/

/-- The steps between starting a query and running it. -/
def steps (search : Search σ Q ε) (plan : FilterPlan) : List (QueryStep Q) :=
  plan.steps search.catalog.named ++ search.catalog.paging.toList.map fun paging =>
    .cut (paging.window search.request.page search.request.perPage)

theorem prepare_eq_foldlM (search : Search σ Q ε) (plan : FilterPlan) (query : Q) :
    search.prepare plan query = (search.steps plan).foldlM search.catalog.source.take query := by
  rw [prepare, Source.refine_eq_foldlM, steps, List.foldlM_append]
  congr 1
  funext query'
  cases search.catalog.paging with
  | none => rfl
  | some paging => exact (bind_pure _).symm

theorem attempt_of_plan_error {search : Search σ Q ε} {e : FilterError}
    (h : search.plan = .error e) (s : σ) : search.attempt.run s = (.error e, s) := by
  rw [attempt, h]
  rfl

theorem attempt_of_plan_ok {search : Search σ Q ε} {plan : FilterPlan} (h : search.plan = .ok plan)
    {s s₁ : σ} {query : Q} (hstart : search.catalog.source.start.run s = (query, s₁)) :
    search.attempt.run s =
      ((search.steps plan).foldlM search.catalog.source.take query >>=
        search.catalog.source.run).run s₁ := by
  rw [attempt, h, ← prepare_eq_foldlM]
  show (do
    let query ← (ExceptT.lift search.catalog.source.start : Action σ Q)
    let query ← search.prepare plan query
    search.catalog.source.run query : Action σ (List ε)).run s = _
  have hlift : (ExceptT.lift search.catalog.source.start : Action σ Q).run s = (.ok query, s₁) := by
    rw [ExceptT.run_lift, map_eq_pure_bind]
    exact run_bind_of_eq hstart
  exact Action.run_bind_of_ok hlift

theorem attempt_run_eq {search : Search σ Q ε} {plan : FilterPlan} (hplan : search.plan = .ok plan)
    {s s' : σ} {made : List Source.Call} {outcome : Except FilterError (List ε)}
    (h : search.catalog.source.Attempt (search.steps plan) s made outcome s') :
    search.attempt.run s = (outcome, s') := by
  cases h with
  | refused hstart hperf hinit =>
    have hfold := hperf.foldlM_eq hinit (by rintro ⟨query', hok⟩; cases hok)
    rw [attempt_of_plan_ok hplan hstart, Action.run_bind_of_error hfold]
  | ran hstart hperf hrun =>
    have hfold := hperf.foldlM_eq List.prefix_rfl fun _ => rfl
    rw [attempt_of_plan_ok hplan hstart, Action.run_bind_of_ok hfold, hrun]

/-- **In every state, an attempt goes some way.** -/
theorem exists_attempt (search : Search σ Q ε) (plan : FilterPlan) (s : σ) :
    ∃ made outcome s', search.catalog.source.Attempt (search.steps plan) s made outcome s' := by
  rcases hstart : search.catalog.source.start s with ⟨query, s₁⟩
  obtain ⟨performed, prepared, s₂, -, hperf, hinit, hall⟩ :=
    search.catalog.source.foldlM_performs (search.steps plan) query s₁
  cases prepared with
  | error e => exact ⟨_, _, _, .refused hstart hperf hinit⟩
  | ok query' =>
    obtain rfl := hall ⟨query', rfl⟩
    exact ⟨_, _, _, .ran hstart hperf rfl⟩

end Search

end KeyedFilter
