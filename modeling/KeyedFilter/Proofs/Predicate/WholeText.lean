import KeyedFilter.Proofs.Number.Numeral
import KeyedFilter.Proofs.Predicate.Outcome
import KeyedFilter.Scalar.Conversion

/-!
# Words and texts of digits

A field that holds a word may be compared with a whole number that is given as a text. The text may
be longer than any word; still the outcome is that for the two whole numbers, but for the smallest
signed word beside the 1024 numbers below it, which are rounded to it.

* `Relation.holdsOf`: the relations between whole numbers.
* `Relation.evaluate_wholeNumeral`: what the evaluation makes of them.
* `Relation.smallest_word_equals_less`: a number that a smaller one is found equal to.
-/

namespace KeyedFilter.Relation

/-- Does the relation compare two numbers? -/
def comparesNumbers (relation : Relation) : Prop :=
  relation = .equals ∨ relation.isOrder = true

/-- Does the relation hold of two whole numbers? -/
def holdsOf (relation : Relation) (n m : ℤ) : Bool :=
  match relation with
  | equals => n == m
  | less => n < m
  | lessOrEqual => n ≤ m
  | greater => m < n
  | greaterOrEqual => m ≤ n
  | _ => false

variable {relation : Relation} {a b : Number} {n m : ℤ} {name text : String}

theorem admits_compare (h : relation.isOrder = true) (n m : ℤ) :
    relation.admits (compare n m) = relation.holdsOf n m := by
  rcases lt_trichotomy n m with hlt | rfl | hgt
  · rw [compare_lt_iff_lt.2 hlt]
    cases relation <;> simp_all [admits, holdsOf, isOrder, le_of_lt, not_le_of_gt, not_lt_of_gt]
  · rw [compare_eq_iff_eq.2 rfl]
    cases relation <;> simp_all [admits, holdsOf, isOrder]
  · rw [compare_gt_iff_gt.2 hgt]
    cases relation <;> simp_all [admits, holdsOf, isOrder, le_of_lt, not_le_of_gt, not_lt_of_gt]

/-- A number is compared with a text by the number that the text denotes. -/
theorem evaluate_of_compare? (h : relation.comparesNumbers) (hread : Number.read? text = some b)
    (hcompare : a.compare? b = some (compare n m)) :
    relation.evaluate name (.number a) (.string text) = .ok (some (relation.holdsOf n m)) := by
  have hvalue : Scalar.number a ≠ .null := by simp
  have horder : (Scalar.number a).compareOperand? (.string text) = some (some (compare n m)) := by
    rw [Scalar.compareOperand?, hread, Option.map_some, hcompare]
  rcases h with rfl | h
  · have hequals : (Scalar.number a).equalsOperand (.string text) = holdsOf equals n m := by
      rw [Scalar.equalsOperand, horder, holdsOf, Bool.eq_iff_iff, beq_iff_eq, beq_iff_eq,
        Option.some_inj, Option.some_inj, compare_eq_iff_eq]
    have hoperand : Scalar.string text ≠ .null := by simp
    rw [evaluate_equals hvalue hoperand, hequals]
  · simp only [evaluate_of_isOrder h hvalue, horder, Option.map_some, admits_compare h]

/-- What a whole number counts as makes a difference to the smallest signed word only. -/
theorem holdsOf_counted (hn : -2 ^ 63 ≤ n)
    (h : ¬ (n = -2 ^ 63 ∧ -2 ^ 63 - 1024 ≤ m ∧ m < -2 ^ 63)) :
    relation.holdsOf n (Number.counted m) = relation.holdsOf n m := by
  rw [Number.counted]
  split_ifs with hnear
  · have hlt : -2 ^ 63 < n := lt_of_le_of_ne hn fun heq => h ⟨heq.symm, hnear⟩
    rw [Bool.eq_iff_iff]
    cases relation <;> simp only [holdsOf, beq_iff_eq, decide_eq_true_eq] <;> omega
  · rfl

/-- **A word is compared with a text of digits as with the number that the text denotes**, save that
the 1024 numbers below the smallest signed word are taken for that word. So the outcome is the one
for the two whole numbers unless the field holds that word and the text denotes one of these. -/
theorem evaluate_wholeNumeral (ha : a.toInt? = some n) (numeral : WholeNumeral) (name : String) :
    (∀ relation : Relation, relation.comparesNumbers →
      relation.evaluate name (.number a) (.string numeral.text) =
        .ok (some (relation.holdsOf n (Number.counted numeral.value)))) ∧
    ((∀ relation : Relation, relation.comparesNumbers →
      relation.evaluate name (.number a) (.string numeral.text) =
        .ok (some (relation.holdsOf n numeral.value))) ↔
      ¬ (n = -2 ^ 63 ∧ -2 ^ 63 - 1024 ≤ numeral.value ∧ numeral.value < -2 ^ 63)) := by
  have hcounted : ∀ relation : Relation, relation.comparesNumbers →
      relation.evaluate name (.number a) (.string numeral.text) =
        .ok (some (relation.holdsOf n (Number.counted numeral.value))) := fun _ h =>
    evaluate_of_compare? h (Number.read?_text numeral) (Number.compare?_ofWhole ha numeral.value)
  refine ⟨hcounted, fun hexact => ?_, fun hexcept relation h => ?_⟩
  · rintro ⟨rfl, hnear⟩
    -- the word is equal to what the number counts as, and not to the number
    have hequals := (hcounted .equals (.inl rfl)).symm.trans (hexact .equals (.inl rfl))
    rw [Number.counted, if_pos hnear, holdsOf, holdsOf, beq_self_eq_true] at hequals
    have hvalue := beq_iff_eq.1 (Option.some.inj (Except.ok.inj hequals)).symm
    omega
  · rw [hcounted relation h, holdsOf_counted (Number.bounds_of_toInt? ha).1 hexcept]

/-- The largest word beside the next whole number, which no word holds. -/
theorem evaluate_wholeNumeral_largest :
    let numeral : WholeNumeral := ⟨[' '], some false, "18446744073709551616".toList, ['\t'],
      by decide, List.all_eq_true.1 rfl, List.all_eq_true.1 rfl, List.all_eq_true.1 rfl⟩
    let largest : Number := .unsigned 18446744073709551615
    numeral.text = " +18446744073709551616\t" ∧ numeral.value = 18446744073709551616 ∧
      largest.toInt? = some 18446744073709551615 ∧
      Relation.less.evaluate "id" (.number largest) (.string numeral.text) = .ok (some true) ∧
      Relation.equals.evaluate "id" (.number largest) (.string numeral.text) =
        .ok (some false) := by
  intro numeral largest
  have hvalue : numeral.value = 18446744073709551616 := by decide +kernel
  have hlargest : largest.toInt? = some 18446744073709551615 := rfl
  have hexact := (evaluate_wholeNumeral hlargest numeral "id").2.2 (by omega)
  refine ⟨by decide +kernel, hvalue, hlargest, ?_, ?_⟩
  · rw [hexact .less (.inr rfl), hvalue]
    rfl
  · rw [hexact .equals (.inl rfl), hvalue]
    rfl

/-- **The smallest word is found equal to the whole number below it.** -/
theorem smallest_word_equals_less :
    let numeral : WholeNumeral := ⟨[], some true, "9223372036854775809".toList, [],
      by decide, List.all_eq_true.1 rfl, List.all_eq_true.1 rfl, List.all_eq_true.1 rfl⟩
    let smallest : Number := .signed Int64.minValue
    numeral.text = "-9223372036854775809" ∧ numeral.value = -9223372036854775809 ∧
      smallest.toInt? = some (-9223372036854775808) ∧
      Relation.equals.evaluate "id" (.number smallest) (.string numeral.text) = .ok (some true) ∧
      Relation.greater.evaluate "id" (.number smallest) (.string numeral.text) =
        .ok (some false) := by
  intro numeral smallest
  refine ⟨by decide +kernel, by decide +kernel, rfl, ?_, ?_⟩
  · decide +kernel
  · decide +kernel

end KeyedFilter.Relation
