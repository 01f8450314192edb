import KeyedFilter.OrderedMap
import KeyedFilter.Scalar.Basic

/-!
# Requests

What a client asks for: filters, each an operand under a filter key, and a page of the result. The
filters keep the order in which they were given.
-/

namespace KeyedFilter

/-- Operands under filter keys. -/
abbrev Filters := OrderedMap Scalar

/-- Filters together with the wanted page and its size. -/
structure Request where
  filters : Filters := ∅
  page : Option UInt64 := none
  perPage : Option UInt64 := none

instance : Inhabited Request := ⟨{}⟩

end KeyedFilter
