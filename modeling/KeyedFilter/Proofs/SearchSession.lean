import KeyedFilter.Proofs.Search

/-!
# Sessions with a search

A search can be asked for its result, the size of it, and whether it is empty, any number of times
and in any order. A history says how that goes: each question that is asked before there is a result
makes an attempt; as long as attempts fail nothing is kept, and the first one that succeeds answers
its question and all later ones.

* `Search.session`: the answers to some questions.
* `Source.History`: how a session goes, with the calls of its attempts.
* `session_history`: every session goes that way, and calls nothing else.
-/

namespace KeyedFilter

variable {σ Q ε : Type}

/-- A question to a search. -/
inductive Ask where
  | results
  | count
  | isEmpty
  deriving DecidableEq

/-- An answer to a question. -/
inductive Answer (ε : Type) where
  | results (entities : List ε)
  | count (n : ℕ)
  | isEmpty (b : Bool)
  deriving DecidableEq

/-- The answer that a result gives. -/
def Ask.answer (entities : List ε) : Ask → Answer ε
  | results => .results entities
  | count => .count entities.length
  | isEmpty => .isEmpty entities.isEmpty

namespace Search

/-- Asks one question. -/
def ask (search : Search σ Q ε) : Ask → StateM σ (Except FilterError (Answer ε) × Search σ Q ε)
  | .results => do
    let (outcome, search) ← search.results
    return (outcome.map .results, search)
  | .count => do
    let (outcome, search) ← search.count
    return (outcome.map .count, search)
  | .isEmpty => do
    let (outcome, search) ← search.isEmpty
    return (outcome.map .isEmpty, search)

/-- Asks one question after the other. -/
def session (search : Search σ Q ε) :
    List Ask → StateM σ (List (Except FilterError (Answer ε)) × Search σ Q ε)
  | [] => pure ([], search)
  | first :: rest => do
    let (answer, search) ← search.ask first
    let (answers, search) ← search.session rest
    return (answer :: answers, search)

theorem ask_of_results {search search' : Search σ Q ε} {s s' : σ}
    {outcome : Except FilterError (List ε)}
    (h : search.results.run s = ((outcome, search'), s')) (question : Ask) :
    search.ask question s =
      ((outcome.map fun entities => question.answer entities, search'), s') := by
  cases question with
  | results => exact run_bind_of_eq h
  | count =>
    have hcount : search.count s = ((outcome.map List.length, search'), s') := run_bind_of_eq h
    refine (run_bind_of_eq hcount).trans ?_
    cases outcome <;> rfl
  | isEmpty =>
    have hempty : search.isEmpty s = ((outcome.map List.isEmpty, search'), s') := run_bind_of_eq h
    refine (run_bind_of_eq hempty).trans ?_
    cases outcome <;> rfl

theorem session_cons {search search₁ search₂ : Search σ Q ε} {first : Ask} {rest : List Ask}
    {s s₁ s₂ : σ} {answer : Except FilterError (Answer ε)}
    {answers : List (Except FilterError (Answer ε))}
    (hfirst : search.ask first s = ((answer, search₁), s₁))
    (hrest : search₁.session rest s₁ = ((answers, search₂), s₂)) :
    search.session (first :: rest) s = ((answer :: answers, search₂), s₂) := by
  unfold session
  rw [run_bind_of_eq hfirst]
  exact run_bind_of_eq hrest

/-- A search with a result answers everything from it. -/
theorem session_of_memo {search : Search σ Q ε} {entities : List ε}
    (h : search.memo = some entities) (questions : List Ask) (s : σ) :
    search.session questions s =
      ((questions.map fun question => .ok (question.answer entities), search), s) := by
  induction questions with
  | nil => rfl
  | cons first rest ih => exact session_cons (ask_of_results (results_of_memo h s) first) ih

/-- A search for a request without a plan answers everything with the same error. -/
theorem session_of_plan_error {search : Search σ Q ε} (hmemo : search.memo = none)
    {e : FilterError} (h : search.plan = .error e) (questions : List Ask) (s : σ) :
    search.session questions s = ((questions.map fun _ => .error e, search), s) := by
  induction questions with
  | nil => rfl
  | cons first rest ih =>
    have hresults := results_of_error hmemo (attempt_of_plan_error h s)
    exact session_cons (ask_of_results hresults first) ih

end Search

/-! ### Histories -/

/-- How a session goes that starts without a result: the calls of each attempt, the answers, and the
result that is kept in the end. -/
inductive Source.History (source : Source σ Q ε) (steps : List (QueryStep Q)) :
    List Ask → σ → List (List Call) → List (Except FilterError (Answer ε)) → Option (List ε) → σ →
      Prop
  | nil {s} : History source steps [] s [] [] none s
  | failed {first rest s made e s₁ attempts answers memo s'} :
      source.Attempt steps s made (.error e) s₁ →
      History source steps rest s₁ attempts answers memo s' →
      History source steps (first :: rest) s (made :: attempts) (.error e :: answers) memo s'
  | answered {first rest s made entities s'} :
      source.Attempt steps s made (.ok entities) s' →
      History source steps (first :: rest) s [made]
        ((first :: rest).map fun question => .ok (question.answer entities)) (some entities) s'

/-- How a session ends with finishing: the kept result is handed out without a call, or one more
attempt is made. -/
inductive Source.Finish (source : Source σ Q ε) (steps : List (QueryStep Q)) :
    Option (List ε) → σ → List Call → Except FilterError (List ε) → σ → Prop
  | kept {entities s} : Finish source steps (some entities) s [] (.ok entities) s
  | fresh {s made outcome s'} :
      source.Attempt steps s made outcome s' → Finish source steps none s made outcome s'

namespace Source

theorem Finish.recorded {source : Source σ Q ε} {steps : List (QueryStep Q)}
    {memo : Option (List ε)} {s s' : σ} {made : List Call} {outcome : Except FilterError (List ε)}
    (h : source.Finish steps memo s made outcome s') (calls : List Call) :
    source.recorded.Finish steps memo (s, calls) made outcome (s', calls ++ made) := by
  cases h with
  | kept =>
    rw [List.append_nil]
    exact .kept
  | fresh hattempt => exact .fresh (hattempt.recorded calls)

namespace History

variable {source : Source σ Q ε} {steps : List (QueryStep Q)} {questions : List Ask} {s s' : σ}
  {attempts : List (List Call)} {answers : List (Except FilterError (Answer ε))}
  {memo : Option (List ε)}

/-- **The twin of a source has the same history** and writes down the calls of its attempts. -/
theorem recorded (h : source.History steps questions s attempts answers memo s')
    (calls : List Call) :
    source.recorded.History steps questions (s, calls) attempts answers memo
      (s', calls ++ attempts.flatten) := by
  induction h generalizing calls with
  | nil => simpa using History.nil
  | @failed _ _ _ made _ _ attempts _ _ _ hattempt _ ih =>
    rw [List.flatten_cons, ← List.append_assoc]
    exact .failed (hattempt.recorded calls) (ih _)
  | @answered _ _ _ made _ _ hattempt =>
    rw [List.flatten_cons, List.flatten_nil, List.append_nil]
    exact .answered (hattempt.recorded calls)

end History

end Source

namespace Search

/-- **A session goes as its history says**, and the result that is kept is all that changes. -/
theorem session_of_history {search : Search σ Q ε} (hmemo : search.memo = none) {plan : FilterPlan}
    (hplan : search.plan = .ok plan) {questions : List Ask} {s s' : σ}
    {attempts : List (List Source.Call)} {answers : List (Except FilterError (Answer ε))}
    {memo : Option (List ε)}
    (h : search.catalog.source.History (search.steps plan) questions s attempts answers memo s') :
    search.session questions s = ((answers, { search with memo }), s') := by
  induction h with
  | nil =>
    rw [← hmemo]
    rfl
  | failed hattempt _ ih =>
    -- a failure leaves the search as it was, so the others are asked of the same search
    have hresults := results_of_error hmemo (attempt_run_eq hplan hattempt)
    exact session_cons (ask_of_results hresults _) ih
  | @answered first rest _ _ entities _ hattempt =>
    have hresults := results_of_ok hmemo (attempt_run_eq hplan hattempt)
    have hkept : (search.keep entities).memo = some entities := rfl
    exact session_cons (ask_of_results hresults first) (session_of_memo hkept rest _)

theorem exists_history (search : Search σ Q ε) (plan : FilterPlan) (questions : List Ask) (s : σ) :
    ∃ attempts answers memo s',
      search.catalog.source.History (search.steps plan) questions s attempts answers memo s' := by
  induction questions generalizing s with
  | nil => exact ⟨[], [], none, s, .nil⟩
  | cons first rest ih =>
    obtain ⟨made, outcome, s₁, hattempt⟩ := search.exists_attempt plan s
    cases outcome with
    | error e =>
      obtain ⟨attempts, answers, memo, s', hrest⟩ := ih s₁
      exact ⟨made :: attempts, .error e :: answers, memo, s', .failed hattempt hrest⟩
    | ok entities => exact ⟨[made], _, some entities, s₁, .answered hattempt⟩

theorem finish_run_eq {search : Search σ Q ε} {plan : FilterPlan} (hplan : search.plan = .ok plan)
    {s s' : σ} {made : List Source.Call} {outcome : Except FilterError (List ε)}
    (h : search.catalog.source.Finish (search.steps plan) search.memo s made outcome s') :
    search.finish.run s = (outcome, s') := by
  obtain ⟨catalog, request, memo⟩ := search
  cases h with
  | kept => rfl
  | fresh hattempt => exact attempt_run_eq hplan hattempt

theorem exists_finish (search : Search σ Q ε) (plan : FilterPlan) (memo : Option (List ε)) (s : σ) :
    ∃ made outcome s',
      search.catalog.source.Finish (search.steps plan) memo s made outcome s' := by
  cases memo with
  | some entities => exact ⟨[], .ok entities, s, .kept⟩
  | none =>
    obtain ⟨made, outcome, s', hattempt⟩ := search.exists_attempt plan s
    exact ⟨made, outcome, s', .fresh hattempt⟩

theorem steps_eq {search : Search σ Q ε} {plan : FilterPlan} (hplan : search.plan = .ok plan) :
    search.steps plan =
      (search.catalog.named.entries.filterMap fun entry =>
        (search.request.filters.get? entry.1).map fun operand => .apply entry.2 operand) ++
      (plan.constraints.filter fun c => c.field ∉ plan.named.map Prod.fst).map .constrain ++
      search.catalog.paging.toList.map fun paging =>
        .cut (paging.window search.request.page search.request.perPage) := by
  rw [steps, FilterPlan.steps_eq hplan]

/-- The search with the twin of its source. -/
def recorded (search : Search σ Q ε) : Search (σ × List Source.Call) Q ε where
  catalog := { search.catalog with source := search.catalog.source.recorded }
  request := search.request
  memo := search.memo

end Search

/-- **Every session has a history, and calls nothing else.** Without a plan, each question and
finishing get the error of the request, and no call is made. With a plan, a search makes attempts
until one succeeds; each takes the registered filters, the constraints that are left and the window
of the page, in this order, up to the first refusal. What is called, and with which arguments, is
what the twin of the source writes down. -/
theorem session_history (catalog : Catalog σ Q ε) (request : Request) (questions : List Ask)
    (s : σ) :
    let search : Search σ Q ε := { catalog, request }
    (∀ e, FilterPlan.ofFilters request.filters catalog.fields catalog.named.keys = .error e →
      search.session questions s = ((questions.map fun _ => .error e, search), s) ∧
      search.finish.run s = (.error e, s) ∧
      ∀ calls, search.recorded.session questions (s, calls) =
          ((questions.map fun _ => .error e, search.recorded), (s, calls)) ∧
        search.recorded.finish.run (s, calls) = (.error e, (s, calls))) ∧
    ∀ plan, FilterPlan.ofFilters request.filters catalog.fields catalog.named.keys = .ok plan →
      let steps : List (QueryStep Q) :=
        (catalog.named.entries.filterMap fun entry =>
          (request.filters.get? entry.1).map fun operand => .apply entry.2 operand) ++
        (plan.constraints.filter fun c => c.field ∉ plan.named.map Prod.fst).map .constrain ++
        catalog.paging.toList.map fun paging => .cut (paging.window request.page request.perPage)
      ∃ attempts answers memo s',
        catalog.source.History steps questions s attempts answers memo s' ∧
        search.session questions s = ((answers, { search with memo }), s') ∧
        (∀ calls, search.recorded.session questions (s, calls) =
          ((answers, { search.recorded with memo }), (s', calls ++ attempts.flatten))) ∧
        ∃ made outcome s'',
          catalog.source.Finish steps memo s' made outcome s'' ∧
          Search.finish { search with memo } s' = (outcome, s'') ∧
          ∀ calls, Search.finish { search.recorded with memo } (s', calls) =
            (outcome, (s'', calls ++ made)) := by
  intro search
  refine ⟨fun e he => ?_, fun plan hplan => ?_⟩
  · -- neither search has anything but the request to go by
    have hplan : search.plan = .error e := he
    have hplan' : search.recorded.plan = .error e := he
    exact ⟨Search.session_of_plan_error rfl hplan questions s,
      Search.attempt_of_plan_error hplan s, fun calls =>
      ⟨Search.session_of_plan_error rfl hplan' questions (s, calls),
        Search.attempt_of_plan_error hplan' (s, calls)⟩⟩
  · intro steps
    have hsearch : search.plan = .ok plan := hplan
    have hrecorded : search.recorded.plan = .ok plan := hplan
    have hsteps : search.steps plan = steps := Search.steps_eq hsearch
    obtain ⟨attempts, answers, memo, s', hhistory⟩ := search.exists_history plan questions s
    obtain ⟨made, outcome, s'', hfinish⟩ := search.exists_finish plan memo s'
    have hsession : search.session questions s = ((answers, { search with memo }), s') :=
      Search.session_of_history rfl hsearch hhistory
    have hkept : Search.plan { search with memo } = .ok plan := hplan
    have hkept' : Search.plan { search.recorded with memo } = .ok plan := hplan
    rw [← hsteps]
    refine ⟨attempts, answers, memo, s', hhistory, hsession, fun calls => ?_, made, outcome, s'',
      hfinish, Search.finish_run_eq hkept hfinish, fun calls => ?_⟩
    · exact Search.session_of_history rfl hrecorded (hhistory.recorded calls)
    · exact Search.finish_run_eq hkept' (hfinish.recorded calls)

end KeyedFilter
