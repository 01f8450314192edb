import Mathlib.Algebra.Group.Nat.Defs
import Mathlib.Algebra.Order.Group.Unbundled.Int
import Mathlib.Tactic.SplitIfs
import KeyedFilter.Timestamp

/-!
# Timestamps keep the order of instants

An instant becomes a timestamp by dropping what is below a millisecond, toward the epoch. The two
sides of the epoch are thus rounded in opposite directions, and the instants of two milliseconds
share the timestamp at the epoch. All in all this is division that rounds toward zero, and that
keeps an order. The distance from the epoch is held in a signed word before it gets its sign; so the
least timestamp, whose distance no word holds, belongs to no instant.

A clock tells an instant as a length of time after or before the epoch, in words. Three of the steps
from there to a timestamp would fail on some words: a product or a sum may be too large for its
word, and the least signed word has no opposite. Here none of them fails.

* `Instant.timestamp?_eq_some_iff`: the timestamp of an instant as a quotient.
* `Instant.exists_timestamp?_iff`: which timestamps are those of instants.
* `Moment.exists_instant_eq_iff`: which instants a clock tells.
* `Moment.timestampInWords?_eq`: no step in words fails.
* `Instant.timestamps_keep_order`: order, distance and range of the timestamps of instants.
-/

namespace KeyedFilter

variable {t u : Instant} {a b : Timestamp} {n : Int64}

/-! ### Timestamps as quotients -/

theorem ne_minValue_iff : n ≠ Int64.minValue ↔ -2 ^ 63 < n.toInt := by
  have hlow := n.le_toInt
  rw [ne_eq, ← Int64.toInt_inj, Int64.toInt_minValue]
  omega

theorem Timestamp.isLE_compare_iff : (a.compare b).isLE ↔ a.millis.toInt ≤ b.millis.toInt := by
  rw [Timestamp.compare, Int.isLE_compare]

namespace Instant

/-- To drop what is below a millisecond toward the epoch is to divide toward zero. -/
theorem signed_wholeMillis (t : Instant) :
    (if t.nanoseconds < 0 then -(t.wholeMillis : ℤ) else t.wholeMillis) =
      t.nanoseconds.tdiv 1000000 := by
  rw [wholeMillis]
  split_ifs with h
  · obtain ⟨n, hn⟩ := Int.exists_eq_neg_ofNat (Int.le_of_lt h)
    rw [hn, Int.natAbs_neg, Int.natAbs_natCast, Int.neg_tdiv]
    rfl
  · obtain ⟨n, hn⟩ := Int.eq_ofNat_of_zero_le (Int.not_lt.1 h)
    rw [hn]
    rfl

theorem natAbs_quotient (t : Instant) :
    (t.nanoseconds.tdiv 1000000).natAbs = t.wholeMillis :=
  Int.natAbs_tdiv t.nanoseconds 1000000

theorem timestamp?_eq_none_iff : t.timestamp? = none ↔ 2 ^ 63 - 1 < t.wholeMillis := by
  rw [timestamp?, Int64.toInt_maxValue, ite_eq_right_iff]
  simp only [reduceCtorEq, imp_false]
  omega

/-- **The timestamp of an instant is the quotient of its nanoseconds, rounded toward zero**, if a
signed word holds it and it is not the least one. -/
theorem timestamp?_eq_some_iff :
    t.timestamp? = some a ↔
      a.millis ≠ Int64.minValue ∧ a.millis.toInt = t.nanoseconds.tdiv 1000000 := by
  have hdistance := t.natAbs_quotient
  rw [timestamp?, Int64.toInt_maxValue, t.signed_wholeMillis, Option.ite_none_right_eq_some,
    Option.some.injEq, ne_minValue_iff]
  constructor
  · rintro ⟨hfits, rfl⟩
    rw [Int64.toInt_ofInt_of_le (by omega) (by omega)]
    exact ⟨by omega, rfl⟩
  · rintro ⟨hleast, hquotient⟩
    have hhigh := a.millis.toInt_lt
    rw [← hquotient, Int64.ofInt_toInt]
    exact ⟨by omega, rfl⟩

/-- Every timestamp but the least one is that of an instant. -/
theorem exists_timestamp?_iff : (∃ t : Instant, t.timestamp? = some a) ↔
    a.millis ≠ Int64.minValue := by
  simp only [timestamp?_eq_some_iff]
  refine ⟨fun ⟨_, hleast, _⟩ => hleast, fun hleast => ⟨⟨a.millis.toInt * 1000000⟩, hleast, ?_⟩⟩
  exact (Int.mul_tdiv_cancel _ (by decide)).symm

/-- What a timestamp leaves out of its instant is less than a millisecond. -/
theorem abs_sub_lt_of_timestamp? (h : t.timestamp? = some a) :
    |t.nanoseconds - a.millis.toInt * 1000000| < 1000000 := by
  have hquotient := (timestamp?_eq_some_iff.1 h).2
  have hrest : t.nanoseconds - a.millis.toInt * 1000000 = t.nanoseconds.tmod 1000000 := by
    rw [hquotient, Int.tmod_def, Int.mul_comm]
  rw [hrest, Int.abs_eq_natAbs, Int.natAbs_tmod]
  exact Int.ofNat_lt.2 (Nat.mod_lt _ (by decide))

/-- Division that rounds toward zero keeps the order, on both sides of zero and across it. -/
theorem isLE_compare_of_timestamp? (ht : t.timestamp? = some a) (hu : u.timestamp? = some b)
    (h : t.nanoseconds ≤ u.nanoseconds) : (a.compare b).isLE := by
  rw [Timestamp.isLE_compare_iff, (timestamp?_eq_some_iff.1 ht).2, (timestamp?_eq_some_iff.1 hu).2]
  exact Int.tdiv_le_tdiv (by decide) h

end Instant

/-! ### Steps that may fail -/

section Words

variable {w : ℕ} {x y z : BitVec w} {long : BitVec 128}

/-- The product of two words, unless it is too large for one. -/
def product? (x y : BitVec w) : Option (BitVec w) :=
  if x.umulOverflow y then none else some (x * y)

/-- The sum of two words, unless it is too large for one. -/
def sum? (x y : BitVec w) : Option (BitVec w) :=
  if x.uaddOverflow y then none else some (x + y)

/-- The opposite of a signed word, unless this is the least one. -/
def opposite? (n : Int64) : Option Int64 :=
  if n = Int64.minValue then none else some (-n)

/-- The signed word for what a long word without a sign holds, if there is one. -/
def signed? (long : BitVec 128) : Option Int64 :=
  if (long.toNat : ℤ) ≤ Int64.maxValue.toInt then some (Int64.ofInt long.toNat) else none

theorem product?_eq_some_iff :
    product? x y = some z ↔ x.toNat * y.toNat < 2 ^ w ∧ z.toNat = x.toNat * y.toNat := by
  rw [product?, BitVec.umulOverflow, Option.ite_none_left_eq_some, decide_eq_true_eq, not_le,
    Option.some.injEq, ← BitVec.toNat_inj, BitVec.toNat_mul]
  refine and_congr_right fun h => ?_
  rw [Nat.mod_eq_of_lt h, eq_comm]

theorem sum?_eq_some_iff :
    sum? x y = some z ↔ x.toNat + y.toNat < 2 ^ w ∧ z.toNat = x.toNat + y.toNat := by
  rw [sum?, BitVec.uaddOverflow, Option.ite_none_left_eq_some, decide_eq_true_eq, not_le,
    Option.some.injEq, ← BitVec.toNat_inj, BitVec.toNat_add]
  refine and_congr_right fun h => ?_
  rw [Nat.mod_eq_of_lt h, eq_comm]

theorem signed?_eq_some_iff : signed? long = some n ↔ n.toInt = long.toNat := by
  rw [signed?, Int64.toInt_maxValue, Option.ite_none_right_eq_some, Option.some.injEq]
  constructor
  · rintro ⟨hfits, rfl⟩
    exact Int64.toInt_ofInt_of_le (by omega) (by omega)
  · intro h
    have hhigh := n.toInt_lt
    rw [← h, Int64.ofInt_toInt]
    exact ⟨by omega, rfl⟩

/-- A signed word for what has no sign is not the least one, so it has an opposite. -/
theorem opposite?_of_signed? (h : signed? long = some n) : opposite? n = some (-n) := by
  have hn := signed?_eq_some_iff.1 h
  exact if_neg (ne_minValue_iff.2 (by omega))

theorem mapM_opposite? (long : BitVec 128) :
    ((signed? long).mapM fun n => Timestamp.mk <$> opposite? n) =
      some ((signed? long).map fun n => ⟨-n⟩) := by
  cases hsigned : signed? long with
  | none => rfl
  | some n =>
    rw [Option.mapM_some, opposite?_of_signed? hsigned]
    rfl

/-- The sign may be given to a timestamp before the distance is held in a word, or after. -/
theorem Instant.timestamp?_eq_map (h : long.toNat = t.wholeMillis) :
    t.timestamp? = (signed? long).map fun n => ⟨if t.nanoseconds < 0 then -n else n⟩ := by
  rw [timestamp?, signed?, h]
  by_cases hsign : t.nanoseconds < 0
  · simp only [if_pos hsign, Int64.ofInt_neg]
    split_ifs <;> rfl
  · simp only [if_neg hsign]
    split_ifs <;> rfl

end Words

/-! ### Lengths of time -/

/-- A length of time in words: whole seconds, and nanoseconds below a second. -/
@[ext]
structure Span where
  seconds : UInt64
  nanoseconds : UInt32
  nanoseconds_lt : nanoseconds.toNat < 1000000000

namespace Span

variable {span other : Span}

/-- The whole length in nanoseconds. -/
def length (span : Span) : ℕ :=
  span.seconds.toNat * 1000000000 + span.nanoseconds.toNat

/-- The whole milliseconds in a length of time, step by step in long words. -/
def millis? (span : Span) : Option (BitVec 128) := do
  let fromSeconds ← product? (span.seconds.toBitVec.setWidth 128) 1000#128
  sum? fromSeconds ((span.nanoseconds / 1000000).toBitVec.setWidth 128)

theorem length_inj : span.length = other.length ↔ span = other := by
  refine ⟨fun h => ?_, fun h => h ▸ rfl⟩
  have hspan := span.nanoseconds_lt
  have hother := other.nanoseconds_lt
  unfold length at h
  ext
  · omega
  · omega

theorem length_lt (span : Span) : span.length < 2 ^ 64 * 1000000000 := by
  have hseconds := span.seconds.toNat_lt
  have hnanoseconds := span.nanoseconds_lt
  unfold length
  omega

/-- Every length below `2 ^ 64` seconds is that of a span. -/
theorem exists_length_eq {n : ℕ} (h : n < 2 ^ 64 * 1000000000) :
    ∃ span : Span, span.length = n := by
  have hseconds : (UInt64.ofNat (n / 1000000000)).toNat = n / 1000000000 :=
    UInt64.toNat_ofNat_of_lt' (Nat.div_lt_of_lt_mul (by omega))
  have hnanoseconds : (UInt32.ofNat (n % 1000000000)).toNat = n % 1000000000 :=
    UInt32.toNat_ofNat_of_lt' ((Nat.mod_lt _ (by decide)).trans (by decide))
  refine ⟨⟨UInt64.ofNat (n / 1000000000), UInt32.ofNat (n % 1000000000),
    hnanoseconds.trans_lt (Nat.mod_lt _ (by decide))⟩, ?_⟩
  rw [length, hseconds, hnanoseconds, Nat.div_add_mod']

/-- **Neither the product nor the sum is too large.** -/
theorem exists_millis? (span : Span) :
    ∃ long, span.millis? = some long ∧ long.toNat = span.length / 1000000 := by
  have hseconds : (span.seconds.toBitVec.setWidth 128).toNat = span.seconds.toNat :=
    BitVec.toNat_setWidth_of_le (by decide)
  have hthousand : (1000#128).toNat = 1000 := rfl
  have hmillion : (1000000 : UInt32).toNat = 1000000 := rfl
  have hbelow : ((span.nanoseconds / 1000000).toBitVec.setWidth 128).toNat =
      span.nanoseconds.toNat / 1000000 := by
    rw [BitVec.toNat_setWidth_of_le (by decide), UInt32.toNat_toBitVec, UInt32.toNat_div, hmillion]
  have hmillis : span.length / 1000000 =
      span.seconds.toNat * 1000 + span.nanoseconds.toNat / 1000000 := by
    unfold length
    omega
  have hlt := span.seconds.toNat_lt
  have hlt' := span.nanoseconds_lt
  have hproduct : product? (span.seconds.toBitVec.setWidth 128) 1000#128 =
      some (BitVec.ofNat 128 (span.seconds.toNat * 1000)) := by
    rw [product?_eq_some_iff, hseconds, hthousand, BitVec.toNat_ofNat, Nat.mod_eq_of_lt (by omega)]
    exact ⟨by omega, rfl⟩
  refine ⟨BitVec.ofNat 128 (span.length / 1000000), ?_, ?_⟩
  · rw [millis?, hproduct, Option.bind_eq_bind, Option.bind_some, sum?_eq_some_iff, hbelow, hmillis,
      BitVec.toNat_ofNat, BitVec.toNat_ofNat, Nat.mod_eq_of_lt (by omega),
      Nat.mod_eq_of_lt (by omega)]
    exact ⟨by omega, rfl⟩
  · rw [BitVec.toNat_ofNat, Nat.mod_eq_of_lt (by omega)]

end Span

/-! ### Moments -/

/-- An instant as a clock tells it: a length of time after the epoch, or before it. -/
inductive Moment where
  | after (span : Span)
  | before (span : Span)

namespace Moment

variable {moment : Moment} {span : Span}

/-- The instant that is told. -/
def instant : Moment → Instant
  | after span => .after span.seconds.toNat span.nanoseconds.toNat
  | before span => .before span.seconds.toNat span.nanoseconds.toNat

/-- How long the epoch is past; it is an error if the epoch lies ahead, and says how far. -/
def sinceEpoch : Moment → Except Span Span
  | after span => .ok span
  | before span => if span.length = 0 then .ok span else .error span

/-- The timestamp of a moment, step by step in words. The outer `none` stands for a step that fails,
the inner one for a moment without a timestamp. -/
def timestampInWords? (moment : Moment) : Option (Option Timestamp) :=
  match moment.sinceEpoch with
  | .ok span => do
    let long ← span.millis?
    return (signed? long).map Timestamp.mk
  | .error span => do
    let long ← span.millis?
    (signed? long).mapM fun n => Timestamp.mk <$> opposite? n

theorem nanoseconds_after (span : Span) : (after span).instant.nanoseconds = span.length := rfl

theorem nanoseconds_before (span : Span) : (before span).instant.nanoseconds = -span.length := rfl

/-- The epoch is not ahead of a moment at it, also if that is told as a moment before it. -/
theorem sinceEpoch_eq_ok_iff :
    moment.sinceEpoch = .ok span ↔ moment.instant.nanoseconds = span.length := by
  cases moment with
  | after past =>
    rw [sinceEpoch, Except.ok.injEq, nanoseconds_after, Int.natCast_inj, Span.length_inj]
  | before ahead =>
    rw [sinceEpoch, nanoseconds_before]
    split_ifs with h
    · rw [Except.ok.injEq, ← Span.length_inj]
      omega
    · rw [false_iff]
      omega

theorem sinceEpoch_eq_error_iff :
    moment.sinceEpoch = .error span ↔
      0 < span.length ∧ moment.instant.nanoseconds = -span.length := by
  cases moment with
  | after past =>
    rw [sinceEpoch, nanoseconds_after]
    simp only [reduceCtorEq, false_iff]
    omega
  | before ahead =>
    rw [sinceEpoch, nanoseconds_before]
    split_ifs with h
    · rw [false_iff]
      omega
    · rw [Except.error.injEq, ← Span.length_inj]
      omega

/-- A clock tells exactly the instants that lie less than `2 ^ 64` seconds from the epoch. -/
theorem exists_instant_eq_iff :
    (∃ moment : Moment, moment.instant = t) ↔ t.nanoseconds.natAbs < 2 ^ 64 * 1000000000 := by
  constructor
  · rintro ⟨moment, rfl⟩
    cases moment with
    | after span =>
      rw [nanoseconds_after, Int.natAbs_natCast]
      exact span.length_lt
    | before span =>
      rw [nanoseconds_before, Int.natAbs_neg, Int.natAbs_natCast]
      exact span.length_lt
  · intro h
    obtain ⟨span, hlength⟩ := Span.exists_length_eq h
    obtain ⟨nanoseconds⟩ := t
    rcases Int.natAbs_eq nanoseconds with hsign | hsign
    · exact ⟨after span, congrArg Instant.mk (by rw [hsign, ← hlength]; rfl)⟩
    · exact ⟨before span, congrArg Instant.mk (by rw [hsign, ← hlength]; rfl)⟩

/-- **No step in words fails**, and the answer is the timestamp of the instant. -/
theorem timestampInWords?_eq (moment : Moment) :
    moment.timestampInWords? = some moment.instant.timestamp? := by
  cases hsince : moment.sinceEpoch with
  | ok span =>
    obtain ⟨long, hlong, hlength⟩ := span.exists_millis?
    have hnanoseconds := sinceEpoch_eq_ok_iff.1 hsince
    have hmillis : long.toNat = moment.instant.wholeMillis := by
      rw [hlength, Instant.wholeMillis, hnanoseconds, Int.natAbs_natCast]
    have hsign : ¬ moment.instant.nanoseconds < 0 := by omega
    simp only [timestampInWords?, hsince, hlong, Instant.timestamp?_eq_map hmillis, if_neg hsign]
    rfl
  | error span =>
    obtain ⟨long, hlong, hlength⟩ := span.exists_millis?
    obtain ⟨hpos, hnanoseconds⟩ := sinceEpoch_eq_error_iff.1 hsince
    have hmillis : long.toNat = moment.instant.wholeMillis := by
      rw [hlength, Instant.wholeMillis, hnanoseconds, Int.natAbs_neg, Int.natAbs_natCast]
    have hsign : moment.instant.nanoseconds < 0 := by omega
    simp only [timestampInWords?, hsince, hlong, Instant.timestamp?_eq_map hmillis, if_pos hsign]
    exact mapM_opposite? long

end Moment

/-- **Timestamps keep the order of instants.** Of two instants with a timestamp the earlier one does
not get the later timestamp. A timestamp is less than a millisecond off its instant. There is none
exactly if a signed word does not hold the distance from the epoch in whole milliseconds. And when a
moment is turned into a timestamp in words, no step fails. -/
theorem Instant.timestamps_keep_order :
    (∀ (t u : Instant) (a b : Timestamp), t.timestamp? = some a → u.timestamp? = some b →
      t.nanoseconds ≤ u.nanoseconds → (a.compare b).isLE) ∧
    (∀ (t : Instant) (a : Timestamp), t.timestamp? = some a →
      |t.nanoseconds - a.millis.toInt * 1000000| < 1000000) ∧
    (∀ t : Instant, t.timestamp? = none ↔ 2 ^ 63 - 1 < t.nanoseconds.natAbs / 1000000) ∧
    ∀ moment : Moment, moment.timestampInWords? = some moment.instant.timestamp? := by
  refine ⟨?_, ?_, ?_, ?_⟩
  · intro t u a b ht hu h
    exact isLE_compare_of_timestamp? ht hu h
  · intro t a h
    exact abs_sub_lt_of_timestamp? h
  · intro t
    exact timestamp?_eq_none_iff
  · intro moment
    exact moment.timestampInWords?_eq

/-- The earliest instant that has a timestamp, and the earliest one that has the timestamp of the
epoch. -/
theorem Instant.timestamps_keep_order_earliest :
    let t := Instant.before 9223372036854775 807999999
    let u := Instant.before 0 999999
    let a : Timestamp := ⟨-9223372036854775807⟩
    let b : Timestamp := ⟨0⟩
    t.timestamp? = some a ∧ u.timestamp? = some b ∧ t.nanoseconds ≤ u.nanoseconds ∧
      (a.compare b).isLE ∧ |t.nanoseconds - a.millis.toInt * 1000000| < 1000000 := by
  intro t u a b
  obtain ⟨horder, hnear, -, -⟩ := timestamps_keep_order
  have ht : t.timestamp? = some a := by decide
  have hu : u.timestamp? = some b := by decide
  have h : t.nanoseconds ≤ u.nanoseconds := by decide
  exact ⟨ht, hu, h, horder t u a b ht hu h, hnear t a ht⟩

end KeyedFilter
