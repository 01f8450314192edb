/-!
# Matchers

Conditions on an entry of a document, to be put together with `not`, `all` and `any`. One of them
does not look at the entry at all but at how often the matcher has been asked before.
-/

namespace KeyedFilter

/-- A condition on a key, a child and the container of the child. -/
inductive Matcher (κ ν : Type) where
  | always (answer : Bool)
  | test (holds : Option κ → ν → ν → Bool)
  | every (n : Nat)
  | not (m : Matcher κ ν)
  | all (ms : List (Matcher κ ν))
  | any (ms : List (Matcher κ ν))

namespace Matcher

variable {κ ν : Type}

instance : Inhabited (Matcher κ ν) := ⟨always false⟩

mutual

/-- Does the matcher accept, when asked for the `call`-th time? -/
def holds (call : Nat) (key : Option κ) (child container : ν) : Matcher κ ν → Bool
  | always answer => answer
  | test f => f key child container
  | every n => call % n == 0
  | not m => !holds call key child container m
  | all ms => holdsAll call key child container ms
  | any ms => holdsAny call key child container ms

/-- Do all matchers of the list accept? -/
def holdsAll (call : Nat) (key : Option κ) (child container : ν) : List (Matcher κ ν) → Bool
  | [] => true
  | m :: ms => holds call key child container m && holdsAll call key child container ms

/-- Does a matcher of the list accept? -/
def holdsAny (call : Nat) (key : Option κ) (child container : ν) : List (Matcher κ ν) → Bool
  | [] => false
  | m :: ms => holds call key child container m || holdsAny call key child container ms

end

/-- The matcher as a comparator that counts how often it is asked. -/
def ask (m : Matcher κ ν) (key : Option κ) (child container : ν) : StateM Nat Bool := do
  modify (· + 1)
  return m.holds (← get) key child container

end Matcher

end KeyedFilter
