/-!
# Ranges of code points

A character property outside ASCII is stored as a list of ranges. A range has a step, because the
two cases of a letter often alternate: `⟨0x100, 0x12e, 2⟩` holds every second code point.
-/

namespace KeyedFilter.Text

/-- The code points `first`, `first + step`, ..., up to `last`. -/
structure CodeRange where
  first : Nat
  last : Nat
  step : Nat
deriving DecidableEq, Repr

/-- Is this code point in the range? -/
def CodeRange.holds (range : CodeRange) (code : Nat) : Bool :=
  range.first ≤ code && code ≤ range.last && (code - range.first) % range.step == 0

/-- Is the character in one of the ranges? -/
def inRanges (ranges : List CodeRange) (c : Char) : Bool :=
  ranges.any (·.holds c.toNat)

end KeyedFilter.Text
