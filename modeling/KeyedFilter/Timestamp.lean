/-!
# Timestamps

A timestamp counts milliseconds from the start of 1970 in a signed word. An instant is finer and
wider; it becomes a timestamp by dropping what is below a millisecond, toward the epoch on both
sides, and has none when the word cannot hold its distance from the epoch.
-/

namespace KeyedFilter

/-- Milliseconds from the start of 1970. -/
structure Timestamp where
  millis : Int64
deriving DecidableEq, Repr

namespace Timestamp

/-- A timestamp given in seconds. Beyond the range of timestamps the nearest end of it is taken. -/
def ofSeconds (seconds : Int64) : Timestamp :=
  ⟨Int64.ofInt
    (max Int64.minValue.toInt (min Int64.maxValue.toInt (seconds.toInt * 1000)))⟩

/-- The order in time. -/
protected def compare (a b : Timestamp) : Ordering :=
  Ord.compare a.millis.toInt b.millis.toInt

end Timestamp

/-- A point in time, in nanoseconds from the start of 1970. -/
structure Instant where
  nanoseconds : Int
deriving DecidableEq, Repr

namespace Instant

/-- The instant that lies so many seconds and nanoseconds after the epoch. -/
def after (seconds nanoseconds : Nat) : Instant :=
  ⟨seconds * 1000000000 + nanoseconds⟩

/-- The instant that lies so many seconds and nanoseconds before the epoch. -/
def before (seconds nanoseconds : Nat) : Instant :=
  ⟨-(seconds * 1000000000 + nanoseconds)⟩

/-- The distance from the epoch in whole milliseconds. -/
def wholeMillis (t : Instant) : Nat :=
  t.nanoseconds.natAbs / 1000000

/-- The timestamp of an instant, unless it is too far from the epoch. -/
def timestamp? (t : Instant) : Option Timestamp :=
  if (t.wholeMillis : Int) ≤ Int64.maxValue.toInt then
    some ⟨Int64.ofInt (if t.nanoseconds < 0 then -(t.wholeMillis : Int) else t.wholeMillis)⟩
  else none

end Instant

/-- Types whose values are read as timestamps by a field that holds points in time. -/
class ToTimestamp (α : Type) where
  timestamp? : α → Option Timestamp

/-- A signed word counts milliseconds. -/
instance : ToTimestamp Int64 := ⟨fun n => some ⟨n⟩⟩

/-- An unsigned word counts milliseconds, as far as a signed one can. -/
instance : ToTimestamp UInt64 :=
  ⟨fun n =>
    if (n.toNat : Int) ≤ Int64.maxValue.toInt then some ⟨Int64.ofInt n.toNat⟩ else none⟩

instance : ToTimestamp Timestamp := ⟨some⟩

instance : ToTimestamp Instant := ⟨Instant.timestamp?⟩

instance {α : Type} [ToTimestamp α] : ToTimestamp (Option α) := ⟨(·.bind ToTimestamp.timestamp?)⟩

end KeyedFilter
