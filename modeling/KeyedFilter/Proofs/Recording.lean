import KeyedFilter.Proofs.Refinement

/-!
# Writing down the calls of a source

Any source has a twin that does the same and also writes down each call that it gets, whether it
succeeds or fails. What the twin has written down after some steps is one call for each of them, in
order; applying a registered filter is no call.

* `Source.recorded`: the twin of a source.
* `Source.Performs.recorded`: what it does and writes down in some steps.
-/

namespace KeyedFilter

variable {σ Q ε α : Type}

namespace Source

/-- A call of a source, without the query that it is given. -/
inductive Call where
  | start
  | constrain (c : Constraint)
  | cut (window : Window)
  | run
  deriving DecidableEq

/-- Makes a call and writes it down. -/
def record (call : Call) (action : StateM σ α) : StateM (σ × List Call) α :=
  fun (s, calls) => ((action s).1, ((action s).2, calls ++ [call]))

/-- The source that also writes down its calls. -/
def recorded (source : Source σ Q ε) : Source (σ × List Call) Q ε where
  start := record .start source.start
  constrain query c := ExceptT.mk (record (.constrain c) (source.constrain query c).run)
  cut query window := ExceptT.mk (record (.cut window) (source.cut query window).run)
  run query := ExceptT.mk (record .run (source.run query).run)

theorem record_of_eq {action : StateM σ α} {s s' : σ} {a : α} (h : action s = (a, s')) (call : Call)
    (calls : List Call) : record call action (s, calls) = (a, (s', calls ++ [call])) := by
  simp only [record, h]

end Source

/-- The call that a step comes to. -/
def QueryStep.call? : QueryStep Q → Option Source.Call
  | .apply _ _ => none
  | .constrain c => some (.constrain c)
  | .cut window => some (.cut window)

namespace Source

theorem take_recorded {source : Source σ Q ε} {step : QueryStep Q} {query : Q} {s s' : σ}
    {outcome : Except FilterError Q} (h : (source.take query step).run s = (outcome, s'))
    (calls : List Call) :
    (source.recorded.take query step).run (s, calls) =
      (outcome, (s', calls ++ step.call?.toList)) := by
  cases step with
  | apply filter operand =>
    cases h
    rw [QueryStep.call?, Option.toList_none, List.append_nil]
    rfl
  | constrain c => exact record_of_eq h (.constrain c) calls
  | cut window => exact record_of_eq h (.cut window) calls

/-- **The twin performs the same steps** and writes down the calls among them. -/
theorem Performs.recorded {source : Source σ Q ε} {performed : List (QueryStep Q)} {query : Q}
    {s s' : σ} {outcome : Except FilterError Q} (h : source.Performs performed query s outcome s')
    (calls : List Call) :
    source.recorded.Performs performed query (s, calls) outcome
      (s', calls ++ performed.filterMap QueryStep.call?) := by
  induction h generalizing calls with
  | done => simpa using Performs.done
  | @next step rest _ _ _ _ _ _ hstep _ ih =>
    have hcalls : calls ++ (step :: rest).filterMap QueryStep.call? =
        (calls ++ step.call?.toList) ++ rest.filterMap QueryStep.call? := by
      cases hcall : step.call? <;> simp [hcall]
    rw [hcalls]
    exact .next (take_recorded hstep calls) (ih _)
  | @refused step _ _ _ _ hstep =>
    have hcalls : calls ++ [step].filterMap QueryStep.call? = calls ++ step.call?.toList := by
      cases hcall : step.call? <;> simp [hcall]
    rw [hcalls]
    exact .refused (take_recorded hstep calls)

end Source

end KeyedFilter
