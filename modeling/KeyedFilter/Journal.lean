import KeyedFilter.Source

/-!
# Journals

A source without entities that writes down what is asked of it. Its queries are the lists of steps
so far, and the result of a query is the query itself. It counts the calls of each kind and can be
told to fail some of them.
-/

namespace KeyedFilter

namespace Journal

/-- One entry of a journal; registered filters write down a label of their own. -/
inductive Entry (α : Type) where
  | named (label : α) (operand : Scalar)
  | constrain (c : Constraint)
  | cut (window : Window)

/-- The kinds of steps that a source takes. -/
inductive Stage where
  | start
  | constrain
  | cut
  | run
  deriving DecidableEq, Repr

/-- Failures to come: at one stage, after some calls, for some calls. -/
structure Failures where
  stage : Stage
  skip : Nat
  times : Nat
  message : String

/-- How often each stage was called, and the failures to come. -/
structure Calls where
  start : Nat := 0
  constrain : Nat := 0
  cut : Nat := 0
  run : Nat := 0
  failures : Option Failures := none

instance : Inhabited Calls := ⟨{}⟩

namespace Calls

/-- Counts a call. -/
def count (calls : Calls) : Stage → Calls
  | .start => { calls with start := calls.start + 1 }
  | .constrain => { calls with constrain := calls.constrain + 1 }
  | .cut => { calls with cut := calls.cut + 1 }
  | .run => { calls with run := calls.run + 1 }

/-- The failures that are left after a call, and the message with which it fails. -/
def nextFailure (failures : Failures) (stage : Stage) : Failures × Option String :=
  if failures.stage ≠ stage then (failures, none)
  else if 0 < failures.skip then ({ failures with skip := failures.skip - 1 }, none)
  else if 0 < failures.times then
    ({ failures with times := failures.times - 1 }, some failures.message)
  else (failures, none)

end Calls

/-- A call at a stage: it is counted, and fails if that is planned. -/
def call (stage : Stage) : Action Calls Unit :=
  ExceptT.mk fun calls =>
    let counted := calls.count stage
    match counted.failures with
    | none => (.ok (), counted)
    | some failures =>
      let (left, failure) := Calls.nextFailure failures stage
      (failure.elim (.ok ()) fun message => .error (.execution message),
        { counted with failures := some left })

/-- The source that keeps a journal. -/
def source (α : Type) : Source Calls (List (Entry α)) (Entry α) where
  start := do
    modify (·.count .start)
    return []
  constrain query c := do
    call .constrain
    return query ++ [.constrain c]
  cut query window := do
    call .cut
    return query ++ [.cut window]
  run query := do
    call .run
    return query

/-- A filter that writes down its label. -/
def filter {α : Type} (label : α) (query : List (Entry α)) (operand : Scalar) : List (Entry α) :=
  query ++ [.named label operand]

end Journal

end KeyedFilter
