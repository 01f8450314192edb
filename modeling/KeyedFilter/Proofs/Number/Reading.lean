import KeyedFilter.Proofs.Number.Grammar
import KeyedFilter.Proofs.Number.NearestDouble

/-!
# Reading numbers from texts

A text is read as a number if it is a numeral, blanks around it aside, and does not say that it is no
number. A whole number without a point and an exponent is read as a word where one holds it, and
everything else is read as the nearest double.

* `Grammar.Denoted.RoundsTo`: the double that a numeral is read as.
* `Number.read?_eq_or`: a word is tried before a double.
* `Number.decimalText`, `Number.read?_decimalText`: renderings of whole numbers are read back.
* `Number.read?_accepts_numerals`: what is read from any text.
-/

namespace KeyedFilter

open Grammar

/-- The text without the blanks around it. -/
def Text.trimmed (text : String) : List Char := trim text.toList

/-! ### The doubles of numerals -/

/-- The double that a numeral is read as: the nearest one, with its sign. A NaN is no number. -/
def Grammar.Denoted.RoundsTo : Denoted → Binary64 → Prop
  | decimal d, x => x.negative = d.negative ∧ x.IsNearest d.value
  | infinity negative, x => x = .infinite negative
  | nan, _ => False

theorem Grammar.Denoted.roundsTo_iff {d : Denoted} {x : Binary64} :
    d.RoundsTo x ↔ d.toBinary64 = x ∧ x.isNaN = false := by
  cases d with
  | decimal d =>
    constructor
    · intro h
      exact ⟨d.toBinary64_eq_iff.2 h, h.2.isNaN⟩
    · intro h
      exact d.toBinary64_eq_iff.1 h.1
  | infinity negative =>
    have hnan : (Binary64.infinite negative).isNaN = false := by cases negative <;> decide
    constructor
    · rintro rfl
      exact ⟨rfl, hnan⟩
    · intro h
      exact h.1.symm
  | nan =>
    constructor
    · exact False.elim
    · rintro ⟨rfl, hnan⟩
      exact absurd hnan (by decide)

variable {text : List Char} {m : ℤ}

theorem filter_readBinary64?_eq_some_iff {x : Binary64} :
    (readBinary64? text).filter (!·.isNaN) = some x ↔ ∃ d, Denotes text d ∧ d.RoundsTo x := by
  simp only [Option.filter_eq_some_iff, readBinary64?_eq_some_iff, Denoted.roundsTo_iff,
    Bool.not_eq_true', ← exists_and_right, and_assoc]

theorem filter_readBinary64?_eq_none_iff : (readBinary64? text).filter (!·.isNaN) = none ↔
    (¬ ∃ d, Denotes text d) ∨ Denotes text .nan := by
  rw [Option.eq_none_iff_forall_ne_some]
  simp only [Ne, filter_readBinary64?_eq_some_iff]
  constructor
  · intro hnone
    by_contra hother
    rw [not_or, not_not] at hother
    obtain ⟨⟨d, hd⟩, hnan⟩ := hother
    cases d with
    | decimal d => exact hnone _ ⟨_, hd, d.toBinary64_eq_iff.1 rfl⟩
    | infinity negative => exact hnone _ ⟨_, hd, rfl⟩
    | nan => exact hnan hd
  · rintro hrefused x ⟨d, hd, hx⟩
    obtain ⟨rfl, hvalue⟩ := Denoted.roundsTo_iff.1 hx
    rcases hrefused with hnone | hnan
    · exact hnone ⟨d, hd⟩
    · have hread := readBinary64?_eq_some_iff.2 ⟨d, hd, rfl⟩
      rw [readBinary64?_eq_some_iff.2 ⟨_, hnan, rfl⟩] at hread
      rw [← Option.some.inj hread] at hvalue
      exact absurd hvalue (by decide)

/-- A whole number is a numeral too. -/
theorem Grammar.WholeText.exists_roundsTo (h : WholeText text m) :
    ∃ d x, Denotes text d ∧ d.RoundsTo x := by
  obtain ⟨hsign, hne, hdigits⟩ := h
  have hdenotes := Denotes.decimal hsign (.whole hne hdigits) .absent
  rw [List.append_nil] at hdenotes
  exact ⟨_, _, hdenotes, Decimal.toBinary64_eq_iff _ |>.1 rfl⟩

namespace Number

variable {a : Number}

/-! ### Words -/

theorem readWord?_eq_some_iff :
    readWord? text = some a ↔ ∃ m, WholeText text m ∧ ofInt? m = some a := by
  constructor
  · intro h
    obtain ⟨m, hm, -⟩ := Option.bind_eq_some_iff.1 h
    have hwhole := readInt?_eq_some_iff.1 hm
    obtain ⟨numeral, rfl, rfl⟩ := hwhole.exists_numeral
    exact ⟨_, hwhole, numeral.readWord?_core ▸ h⟩
  · rintro ⟨m, hwhole, ha⟩
    obtain ⟨numeral, rfl, rfl⟩ := hwhole.exists_numeral
    rwa [numeral.readWord?_core]

theorem readWord?_eq_none_iff :
    readWord? text = none ↔ ∀ m, WholeText text m → m < -2 ^ 63 ∨ 2 ^ 64 ≤ m := by
  simp only [Option.eq_none_iff_forall_ne_some, Ne, readWord?_eq_some_iff, not_exists, not_and]
  constructor
  · intro h m hwhole
    rcases ofInt?_cases m with ⟨a, ha, -⟩ | ⟨-, hbeyond⟩
    · exact absurd ha (h a m hwhole)
    · exact hbeyond
  · intro h a m hwhole ha
    have hrange := h m hwhole
    rcases ofInt?_cases m with ⟨b, -, hvalue, hlow⟩ | ⟨hnone, -⟩
    · have := bounds_of_toInt? hvalue
      omega
    · rw [hnone] at ha
      cases ha

theorem readWord?_ne_double (text : List Char) (x : Binary64) :
    readWord? text ≠ some (.double x) := by
  intro h
  obtain ⟨m, -, hm⟩ := readWord?_eq_some_iff.1 h
  rcases ofInt?_cases m with ⟨a, ha, hvalue, -⟩ | ⟨hnone, -⟩
  · obtain rfl := Option.some.inj (hm.symm.trans ha)
    cases hvalue
  · rw [hnone] at hm
    cases hm

/-! ### Numbers -/

variable {text : String}

/-- A text is read as a word if one holds it, else as a double. -/
theorem read?_eq_or (text : String) : read? text = (readWord? (Text.trimmed text)).or
    (((readBinary64? (Text.trimmed text)).filter (!·.isNaN)).map .double) := by
  simp only [read?, Text.trimmed]
  cases readWord? (Text.trim text.toList) <;> rfl

theorem read?_eq_none_iff : read? text = none ↔
    (¬ ∃ d, Denotes (Text.trimmed text) d) ∨ Denotes (Text.trimmed text) .nan := by
  rw [read?_eq_or, Option.or_eq_none_iff, Option.map_eq_none_iff, ← filter_readBinary64?_eq_none_iff,
    and_iff_right_iff_imp]
  intro hnone
  rw [readWord?_eq_none_iff]
  intro m hwhole
  obtain ⟨d, x, hd, hx⟩ := hwhole.exists_roundsTo
  rw [filter_readBinary64?_eq_some_iff.2 ⟨d, hd, hx⟩] at hnone
  cases hnone

theorem read?_eq_signed_iff {n : Int64} :
    read? text = some (.signed n) ↔ WholeText (Text.trimmed text) n.toInt := by
  rw [read?_eq_or, Option.or_eq_some_iff, readWord?_eq_some_iff]
  simp only [ofInt?_eq_signed_iff, Option.map_eq_some_iff, reduceCtorEq, and_false, exists_false,
    or_false, exists_eq_right]

theorem read?_eq_unsigned_iff {n : UInt64} : read? text = some (.unsigned n) ↔
    2 ^ 63 ≤ n.toNat ∧ WholeText (Text.trimmed text) n.toNat := by
  rw [read?_eq_or, Option.or_eq_some_iff, readWord?_eq_some_iff]
  simp only [ofInt?_eq_unsigned_iff, Option.map_eq_some_iff, reduceCtorEq, and_false, exists_false,
    or_false, and_left_comm, exists_and_left, exists_eq_right]

theorem read?_eq_double_iff {x : Binary64} : read? text = some (.double x) ↔
    (∃ d, Denotes (Text.trimmed text) d ∧ d.RoundsTo x) ∧
      ∀ m, WholeText (Text.trimmed text) m → m < -2 ^ 63 ∨ 2 ^ 64 ≤ m := by
  rw [read?_eq_or, Option.or_eq_some_iff, or_iff_right (readWord?_ne_double _ x),
    readWord?_eq_none_iff, and_comm, ← filter_readBinary64?_eq_some_iff]
  simp only [Option.map_eq_some_iff, double.injEq, exists_eq_right]

/-! ### Decimal renderings -/

/-- A whole number in digits, a minus before them if it is negative, and with zeros put in front. -/
def decimalText (zeros : ℕ) (n : ℤ) : List Char :=
  (if n < 0 then ['-'] else []) ++ (List.replicate zeros '0' ++ Nat.toDigits 10 n.natAbs)

theorem ofList_decimalText_zero (n : ℤ) : String.ofList (decimalText 0 n) = toString n := by
  rw [Int.toString_eq_repr]
  cases n with
  | ofNat m => exact Nat.repr_eq_ofList_toDigits.symm
  | negSucc m =>
    have hminus : "-" = String.ofList ['-'] := rfl
    rw [Int.repr, Nat.repr_eq_ofList_toDigits, hminus, ← String.ofList_append, decimalText,
      if_pos (Int.negSucc_lt_zero m)]
    rfl

variable {before after : List Char} (hbefore : ∀ c ∈ before, Text.isBlank c = true)
  (hafter : ∀ c ∈ after, Text.isBlank c = true)

/-- Such a text as a numeral. -/
def rendering (zeros : ℕ) (n : ℤ) : WholeNumeral where
  before := before
  minus? := if n < 0 then some true else none
  digits := List.replicate zeros '0' ++ Nat.toDigits 10 n.natAbs
  after := after
  digits_ne_nil := List.append_ne_nil_of_right_ne_nil _ Nat.toDigits_ne_nil
  isDigit_of_mem := by
    intro c hc
    rcases List.mem_append.1 hc with hzero | hdigit
    · rw [List.eq_of_mem_replicate hzero]
      rfl
    · exact Nat.isDigit_of_mem_toDigits (by decide) (by decide) hdigit
  isBlank_before := hbefore
  isBlank_after := hafter

theorem text_rendering (zeros : ℕ) (n : ℤ) : (rendering hbefore hafter zeros n).text =
    String.ofList (before ++ decimalText zeros n ++ after) := by
  have hcore : (rendering hbefore hafter zeros n).core = decimalText zeros n := by
    simp only [WholeNumeral.core, WholeNumeral.signText, rendering, decimalText]
    split_ifs <;> rfl
  rw [WholeNumeral.text, hcore]
  rfl

theorem value_rendering (zeros : ℕ) (n : ℤ) : (rendering hbefore hafter zeros n).value = n := by
  have hmagnitude : (rendering hbefore hafter zeros n).magnitude = n.natAbs := by
    rw [WholeNumeral.magnitude, rendering, Nat.ofDigitChars_append, Nat.ofDigitChars_replicate_zero,
      Nat.mul_zero, Nat.ofDigitChars_ten_toDigits]
  rw [WholeNumeral.value, hmagnitude, rendering]
  by_cases hnegative : n < 0
  · rw [if_pos hnegative, if_pos rfl]
    omega
  · rw [if_neg hnegative, if_neg (Option.some_ne_none true).symm]
    omega

include hbefore hafter in
/-- A word is read back from each of its renderings. -/
theorem read?_decimalText {n : ℤ} (hlow : -2 ^ 63 ≤ n) (hhigh : n < 2 ^ 64) (zeros : ℕ) :
    ∃ a, read? (String.ofList (before ++ decimalText zeros n ++ after)) = some a ∧
      a.toInt? = some n := by
  rw [← text_rendering hbefore hafter, read?_text, value_rendering, ofWhole]
  rcases ofInt?_cases n with ⟨a, ha, hvalue, -⟩ | ⟨-, hbeyond⟩
  · rw [ha]
    exact ⟨a, rfl, hvalue⟩
  · omega

/-- **What is read from a text.** The white space around it does not count. No number comes from a
text that is no numeral or says that it is no number. A whole number that a word holds, with or
without a sign and without a point and an exponent, is read as that word, signed where possible.
Every other numeral is read as the nearest double. So each word is read back from its renderings,
whatever zeros and white space are added. -/
theorem read?_accepts_numerals (text : String) :
    (∀ core, Text.IsTrimmed text.toList core ↔ core = Text.trimmed text) ∧
    (read? text = none ↔
      (¬ ∃ d, Denotes (Text.trimmed text) d) ∨ Denotes (Text.trimmed text) .nan) ∧
    (∀ n : Int64, read? text = some (.signed n) ↔ WholeText (Text.trimmed text) n.toInt) ∧
    (∀ n : UInt64, read? text = some (.unsigned n) ↔
      2 ^ 63 ≤ n.toNat ∧ WholeText (Text.trimmed text) n.toNat) ∧
    (∀ x : Binary64, read? text = some (.double x) ↔
      (∃ d, Denotes (Text.trimmed text) d ∧ d.RoundsTo x) ∧
        ∀ m, WholeText (Text.trimmed text) m → m < -2 ^ 63 ∨ 2 ^ 64 ≤ m) ∧
    (∀ (zeros : ℕ) (n : ℤ) (before after : List Char), -2 ^ 63 ≤ n → n < 2 ^ 64 →
      (∀ c ∈ before, c.toNat ∈ Text.whiteSpace) → (∀ c ∈ after, c.toNat ∈ Text.whiteSpace) →
      text = String.ofList (before ++ decimalText zeros n ++ after) →
      ∃ a, read? text = some a ∧ a.toInt? = some n) ∧
    ∀ n : ℤ, String.ofList (decimalText 0 n) = toString n := by
  refine ⟨fun core => Text.isTrimmed_iff, read?_eq_none_iff, fun n => read?_eq_signed_iff,
    fun n => read?_eq_unsigned_iff, fun x => read?_eq_double_iff, ?_, ofList_decimalText_zero⟩
  rintro zeros n before after hlow hhigh hbefore hafter rfl
  exact read?_decimalText (fun c hc => Text.isBlank_iff.2 (hbefore c hc))
    (fun c hc => Text.isBlank_iff.2 (hafter c hc)) hlow hhigh zeros

/-- The words at the two ends, one of them with a zero and white space around it; a double; and two
texts that are no numbers. -/
theorem read?_accepts_largest_unsigned :
    read? " 018446744073709551615\t" = some (.unsigned 0xffffffffffffffff) ∧
      read? "-9223372036854775808" = some (.signed Int64.minValue) ∧
      (∃ a, read? "\u3000-09223372036854775808" = some a ∧ a.toInt? = some (-2 ^ 63)) ∧
      read? "1.5" = some (.double ⟨0x3ff8000000000000⟩) ∧ read? "NaN" = none ∧
      read? "ten" = none := by
  obtain ⟨hlargest, -, -, hunsigned, -⟩ := read?_accepts_numerals " 018446744073709551615\t"
  obtain ⟨hleast, -, hsigned, -⟩ := read?_accepts_numerals "-9223372036854775808"
  obtain ⟨-, -, -, -, -, hrendering, -⟩ := read?_accepts_numerals "\u3000-09223372036854775808"
  obtain ⟨hpoint, -, -, -, hdouble, -⟩ := read?_accepts_numerals "1.5"
  obtain ⟨hword, hnone, -⟩ := read?_accepts_numerals "NaN"
  obtain ⟨hletters, hnone', -⟩ := read?_accepts_numerals "ten"
  have hone : ['1', '.', '5'] = Text.trimmed "1.5" :=
    (hpoint _).1 (Text.isTrimmed_self (by rintro _ ⟨⟩; decide) (by rintro _ ⟨⟩; decide))
  refine ⟨(hunsigned _).2 ⟨by decide, ?_⟩, (hsigned _).2 ?_, ?_, (hdouble _).2 ⟨?_, ?_⟩,
    hnone.2 (.inr ?_), hnone'.2 (.inl ?_)⟩
  · rw [← (hlargest "018446744073709551615".toList).1 ⟨[' '], ['\t'], rfl,
      List.forall_mem_singleton.2 (by decide), List.forall_mem_singleton.2 (by decide),
      by rintro _ ⟨⟩; decide, by rintro _ ⟨⟩; decide⟩]
    exact readInt?_eq_some_iff.1 (by decide +kernel)
  · rw [← (hleast _).1 (Text.isTrimmed_self (by rintro _ ⟨⟩; decide) (by rintro _ ⟨⟩; decide))]
    exact readInt?_eq_some_iff.1 (by decide +kernel)
  · exact hrendering 1 (-2 ^ 63) ['\u3000'] [] (by decide) (by decide)
      (List.forall_mem_singleton.2 (by decide)) nofun (by decide +kernel)
  · rw [← hone]
    have hdigits : Digits ['1'] := List.forall_mem_singleton.2 rfl
    have hdecimals : Digits ['5'] := List.forall_mem_singleton.2 rfl
    have hmantissa : Mantissa ['1', '.', '5'] 15 1 := .point (by decide) hdigits hdecimals
    exact ⟨_, .decimal .absent hmantissa .absent, (Decimal.toBinary64_eq_iff _).1 (by decide +kernel)⟩
  · rw [← hone]
    intro m hm
    cases readInt?_eq_some_iff.2 hm
  · rw [← (hword ['N', 'a', 'N']).1
      (Text.isTrimmed_self (by rintro _ ⟨⟩; decide) (by rintro _ ⟨⟩; decide))]
    exact .nan .absent (Eq.refl ['n', 'a', 'n'])
  · rw [← (hletters ['t', 'e', 'n']).1
      (Text.isTrimmed_self (by rintro _ ⟨⟩; decide) (by rintro _ ⟨⟩; decide))]
    rintro ⟨d, hd⟩
    cases readBinary64?_eq_some_iff.2 ⟨d, hd, rfl⟩

example : ["1.5", "NaN", "product"].map read? =
    [some (.double ⟨0x3ff8000000000000⟩), none, none] := by
  decide +kernel

end Number

end KeyedFilter
