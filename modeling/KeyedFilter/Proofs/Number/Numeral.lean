import Mathlib.Data.List.TakeWhile
import KeyedFilter.Proofs.Number.Rounding
import KeyedFilter.Proofs.Number.Word
import KeyedFilter.Proofs.Text.Blank

/-!
# Whole numbers as texts

A whole number may be given as a text of digits with or without a sign, and of any length. It is
read as a word where one holds it, else it is rounded to a double. Compared with a word, the double
stands as the number itself does, but for the 1024 numbers below the smallest signed word: they are
rounded to that word.

* `WholeNumeral`: such a text.
* `Number.read?_text`: what is read from it.
* `Number.compare?_ofWhole`: how that compares with a word.
-/

namespace KeyedFilter

/-! ### Texts -/

/-- A whole number as a text: an optional sign and one or more digits, with blanks around. -/
structure WholeNumeral where
  before : List Char
  /-- The sign, if there is one, is it a minus? -/
  minus? : Option Bool
  digits : List Char
  after : List Char
  digits_ne_nil : digits ≠ []
  isDigit_of_mem : ∀ c ∈ digits, c.isDigit = true
  isBlank_before : ∀ c ∈ before, Text.isBlank c = true
  isBlank_after : ∀ c ∈ after, Text.isBlank c = true

namespace WholeNumeral

/-- The sign as it is written. -/
def signText (numeral : WholeNumeral) : List Char :=
  match numeral.minus? with
  | none => []
  | some true => ['-']
  | some false => ['+']

/-- The numeral without the blanks around it. -/
def core (numeral : WholeNumeral) : List Char :=
  numeral.signText ++ numeral.digits

/-- The whole text. -/
def text (numeral : WholeNumeral) : String :=
  String.ofList (numeral.before ++ numeral.core ++ numeral.after)

/-- The absolute value of the number that the text denotes. -/
def magnitude (numeral : WholeNumeral) : ℕ :=
  Nat.ofDigitChars 10 numeral.digits 0

/-- The number that the text denotes. -/
def value (numeral : WholeNumeral) : ℤ :=
  if numeral.minus? = some true then -(numeral.magnitude : ℤ) else numeral.magnitude

end WholeNumeral

/-! ### Blanks, digits and signs -/

theorem Text.isBlank_of_isDigit {c : Char} (h : c.isDigit = true) : isBlank c = false := by
  rw [Char.isDigit_iff_toNat] at h
  have hlow : 48 ≤ c.toNat := h.1
  have hhigh : c.toNat ≤ 57 := h.2
  simp only [isBlank, Bool.or_eq_false_iff, Bool.and_eq_false_iff, decide_eq_false_iff_not,
    beq_eq_false_iff_ne]
  omega

theorem Text.toLower_of_isDigit {c : Char} (h : c.isDigit = true) : c.toLower = c := by
  rw [Char.isDigit_iff_toNat] at h
  have hhigh : c.toNat ≤ 57 := h.2
  have hupper : ¬ (c.val ≥ 'A'.val ∧ c.val ≤ 'Z'.val) := by
    rw [ge_iff_le, UInt32.le_iff_toNat_le]
    have : c.val.toNat = c.toNat := rfl
    have : 'A'.val.toNat = 65 := rfl
    omega
  exact dif_neg hupper

theorem takeSign_of_isDigit {c : Char} (h : c.isDigit = true) (rest : List Char) :
    takeSign (c :: rest) = (false, c :: rest) := by
  unfold takeSign
  split
  · next heq =>
    obtain ⟨rfl, -⟩ := List.cons.inj heq
    exact absurd h (by decide)
  · next heq =>
    obtain ⟨rfl, -⟩ := List.cons.inj heq
    exact absurd h (by decide)
  · rfl

namespace WholeNumeral

variable (numeral : WholeNumeral)

/-- The first digit and those behind it. -/
theorem exists_digits : ∃ c rest, numeral.digits = c :: rest ∧ c.isDigit = true := by
  obtain ⟨c, rest, hdigits⟩ := List.exists_cons_of_ne_nil numeral.digits_ne_nil
  exact ⟨c, rest, hdigits, numeral.isDigit_of_mem c (by rw [hdigits]; exact List.mem_cons_self)⟩

/-- What the text without blanks starts with. -/
theorem core_cases : (numeral.minus? = some true ∧ numeral.core = '-' :: numeral.digits) ∨
    (numeral.minus? = some false ∧ numeral.core = '+' :: numeral.digits) ∨
    (numeral.minus? = none ∧ numeral.core = numeral.digits) := by
  unfold core signText
  rcases numeral.minus? with _ | _ | _
  · exact .inr (.inr ⟨rfl, rfl⟩)
  · exact .inr (.inl ⟨rfl, rfl⟩)
  · exact .inl ⟨rfl, rfl⟩

theorem isBlank_head_core : ∀ c ∈ numeral.core.head?, Text.isBlank c = false := by
  obtain ⟨d, rest, hdigits, hdigit⟩ := numeral.exists_digits
  rintro c hc
  rcases numeral.core_cases with ⟨-, hcore⟩ | ⟨-, hcore⟩ | ⟨-, hcore⟩
  · rw [hcore, List.head?_cons] at hc
    obtain rfl := Option.mem_some_iff.1 hc
    decide
  · rw [hcore, List.head?_cons] at hc
    obtain rfl := Option.mem_some_iff.1 hc
    decide
  · rw [hcore, hdigits, List.head?_cons] at hc
    obtain rfl := Option.mem_some_iff.1 hc
    exact Text.isBlank_of_isDigit hdigit

theorem isBlank_getLast_core : ∀ c ∈ numeral.core.getLast?, Text.isBlank c = false := by
  intro c hc
  rw [core, List.getLast?_append_of_ne_nil _ numeral.digits_ne_nil] at hc
  exact Text.isBlank_of_isDigit (numeral.isDigit_of_mem c (List.mem_of_getLast? hc))

theorem trim_text : Text.trim numeral.text.toList = numeral.core := by
  rw [text, String.toList_ofList]
  exact Text.trim_append numeral.isBlank_before numeral.isBlank_after numeral.isBlank_head_core
    numeral.isBlank_getLast_core

/-! ### Reading -/

theorem takeSign_core :
    takeSign numeral.core = (numeral.minus? == some true, numeral.digits) := by
  obtain ⟨c, rest, hdigits, hdigit⟩ := numeral.exists_digits
  rcases numeral.core_cases with ⟨hminus, hcore⟩ | ⟨hminus, hcore⟩ | ⟨hminus, hcore⟩
  · rw [hcore, hminus]
    rfl
  · rw [hcore, hminus]
    rfl
  · rw [hcore, hminus, hdigits, takeSign_of_isDigit hdigit]
    rfl

theorem readInt?_core : readInt? numeral.core = some numeral.value := by
  have hempty : numeral.digits.isEmpty = false := by
    simpa using numeral.digits_ne_nil
  have hall : numeral.digits.all Char.isDigit = true :=
    List.all_eq_true.2 numeral.isDigit_of_mem
  have hvalue : digitsValue numeral.digits = numeral.magnitude := rfl
  simp only [readInt?, takeSign_core, hempty, hall, hvalue, value, Bool.not_true, Bool.or_self,
    Bool.false_eq_true, if_false, beq_iff_eq]

theorem value_nonpos_of_core_eq {rest : List Char} (h : numeral.core = '-' :: rest) :
    numeral.value ≤ 0 := by
  obtain ⟨c, digits, hdigits, hdigit⟩ := numeral.exists_digits
  rcases numeral.core_cases with ⟨hminus, -⟩ | ⟨-, hcore⟩ | ⟨-, hcore⟩
  · rw [value, if_pos hminus]
    omega
  · rw [hcore] at h
    exact absurd (List.cons.inj h).1 (by decide)
  · rw [hcore, hdigits] at h
    obtain ⟨rfl, -⟩ := List.cons.inj h
    exact absurd hdigit (by decide)

/-- A minus is not for unsigned words, but none of them holds the number behind it either. -/
theorem readWord?_core : Number.readWord? numeral.core = Number.ofInt? numeral.value := by
  rw [Number.readWord?, readInt?_core, Option.bind_some]
  split
  · next heq =>
    have hvalue := numeral.value_nonpos_of_core_eq heq
    have hmin : Number.minSigned = -2 ^ 63 := rfl
    have hmax : Number.maxSigned = 2 ^ 63 - 1 := rfl
    rw [Number.ofInt?]
    split_ifs <;> first | rfl | omega
  · rfl

theorem readDecimal?_digits (negative : Bool) :
    readDecimal? negative numeral.digits = some ⟨negative, numeral.magnitude, 0⟩ := by
  have htake : numeral.digits.takeWhile Char.isDigit = numeral.digits :=
    List.takeWhile_eq_self_iff.2 numeral.isDigit_of_mem
  have hdrop : numeral.digits.dropWhile Char.isDigit = [] :=
    List.dropWhile_eq_nil_iff.2 numeral.isDigit_of_mem
  have hempty : numeral.digits.isEmpty = false := by
    simpa using numeral.digits_ne_nil
  simp only [readDecimal?, htake, hdrop, hempty, List.append_nil, readExponent?]
  rfl

/-- Digits are no word for an infinity or a NaN. -/
theorem word_ne {word : String} (c : Char) (rest : List Char)
    (hword : word = String.ofList (c :: rest)) (hletter : c.isDigit = false) :
    (String.ofList (numeral.digits.map Char.toLower) == word) = false := by
  obtain ⟨d, digits, hdigits, hdigit⟩ := numeral.exists_digits
  rw [beq_eq_false_iff_ne, Ne, hword, String.ofList_inj, hdigits, List.map_cons,
    Text.toLower_of_isDigit hdigit]
  intro heq
  obtain ⟨rfl, -⟩ := List.cons.inj heq
  rw [hdigit] at hletter
  cases hletter

theorem readBinary64?_core : readBinary64? numeral.core =
    some (.ofSign (numeral.minus? == some true) (binary64.nearest numeral.magnitude 1)) := by
  have hinf : (_ == "inf") = false := numeral.word_ne 'i' ['n', 'f'] rfl rfl
  have hinfinity : (_ == "infinity") = false :=
    numeral.word_ne 'i' ['n', 'f', 'i', 'n', 'i', 't', 'y'] rfl rfl
  have hnan : (_ == "nan") = false := numeral.word_ne 'n' ['a', 'n'] rfl rfl
  simp only [readBinary64?, takeSign_core, hinf, hinfinity, hnan, Bool.or_self, Bool.false_eq_true,
    if_false]
  rw [numeral.readDecimal?_digits, Option.map_some, Decimal.toBinary64_whole]

theorem natAbs_value : numeral.value.natAbs = numeral.magnitude := by
  rw [value]
  split_ifs <;> omega

theorem value_neg_iff (h : numeral.value ≠ 0) : numeral.value < 0 ↔ numeral.minus? = some true := by
  have hmagnitude := numeral.natAbs_value
  rw [value] at h hmagnitude ⊢
  split_ifs at h hmagnitude ⊢ with hminus <;> simp only [hminus, iff_true, iff_false] <;> omega

/-- Only of the two zeros the sign is lost. -/
theorem ofSign_nearest (h : numeral.value ≠ 0) :
    Binary64.ofSign (numeral.minus? == some true) (binary64.nearest numeral.magnitude 1) =
      .ofInt numeral.value := by
  have hsign : (numeral.minus? == some true) = decide (numeral.value < 0) := by
    rw [Bool.eq_iff_iff, beq_iff_eq, decide_eq_true_iff, numeral.value_neg_iff h]
  rw [Binary64.ofInt, natAbs_value, hsign]

end WholeNumeral

/-! ### Numbers -/

namespace Number

/-- A whole number in the first representation that holds it, or as the nearest double. -/
def ofWhole (m : ℤ) : Number :=
  (ofInt? m).getD (.double (.ofInt m))

/-- **A text of digits is read as a word where one holds the number**, else as the nearest double. -/
theorem read?_text (numeral : WholeNumeral) :
    read? numeral.text = some (ofWhole numeral.value) := by
  simp only [read?, numeral.trim_text, numeral.readWord?_core, numeral.readBinary64?_core, ofWhole]
  rcases ofInt?_cases numeral.value with ⟨a, ha, -⟩ | ⟨hnone, hbeyond⟩
  · rw [ha, Option.getD_some]
  · rw [hnone, Option.getD_none, numeral.ofSign_nearest (by omega), Option.filter_some,
      Binary64.isNaN_ofInt]
    rfl

/-- What a whole number counts as: the numbers next below the smallest signed word count as that
word. -/
def counted (m : ℤ) : ℤ :=
  if -2 ^ 63 - 1024 ≤ m ∧ m < -2 ^ 63 then -2 ^ 63 else m

theorem compareInt?_of_toInt? {a : Number} {m : ℤ} (h : a.toInt? = some m) (n : ℤ) :
    compareInt? n a = some (compare n m) := by
  cases a with
  | signed | unsigned =>
    obtain rfl := Option.some.inj h
    rfl
  | double x => cases h

theorem compare?_of_toInt? {a : Number} {n : ℤ} (h : a.toInt? = some n) (b : Number) :
    a.compare? b = compareInt? n b := by
  cases a with
  | signed | unsigned =>
    obtain rfl := Option.some.inj h
    rfl
  | double x => cases h

theorem bounds_of_toInt? {a : Number} {n : ℤ} (h : a.toInt? = some n) :
    -2 ^ 63 ≤ n ∧ n < 2 ^ 64 := by
  cases a with
  | signed k =>
    obtain rfl := Option.some.inj h
    have := k.le_toInt
    have := k.toInt_lt
    omega
  | unsigned k =>
    obtain rfl := Option.some.inj h
    have := k.toNat_lt
    omega
  | double x => cases h

/-- Beyond the words, a whole number is compared by its nearest double. -/
theorem compareInt?_ofInt {n m : ℤ} (hlow : -2 ^ 63 ≤ n) (hhigh : n < 2 ^ 64)
    (hbeyond : m < -2 ^ 63 ∨ 2 ^ 64 ≤ m) :
    (Binary64.ofInt m).compareInt? n = some (compare n (counted m)) := by
  have hinside : Binary64.InsideInt128 n := ⟨by omega, by omega⟩
  have hlowRat : (-2 ^ 63 : ℚ) ≤ n := by exact_mod_cast hlow
  have hhighRat : (n : ℚ) < 2 ^ 64 := by exact_mod_cast hhigh
  rw [Binary64.compareInt?_of_isNaN_eq_false (Binary64.isNaN_ofInt m) hinside, counted]
  congr 1
  split_ifs with hnear
  · have hvalue : (Binary64.ofInt m).value = ((-2 ^ 63 : ℤ) : ℚ) := by
      rw [Binary64.value_ofInt_of_near hnear.1 hnear.2]
      norm_num
    rw [hvalue, ← cmp_eq_compare, ← cmp_eq_compare, Int.cast_strictMono.cmp_map_eq]
  · rcases hbeyond with hbelow | habove
    · have hvalue := Binary64.value_ofInt_lt (m := m) (by omega)
      rw [compare_gt_iff_gt.2 (hvalue.trans_le hlowRat), compare_gt_iff_gt.2 (by omega)]
    · have hvalue := Binary64.le_value_ofInt habove
      rw [compare_lt_iff_lt.2 (hhighRat.trans_le hvalue), compare_lt_iff_lt.2 (by omega)]

/-- **A word is compared with a whole number as with what that counts as.** -/
theorem compare?_ofWhole {a : Number} {n : ℤ} (ha : a.toInt? = some n) (m : ℤ) :
    a.compare? (ofWhole m) = some (compare n (counted m)) := by
  obtain ⟨hlow, hhigh⟩ := bounds_of_toInt? ha
  rw [compare?_of_toInt? ha, ofWhole]
  rcases ofInt?_cases m with ⟨b, hb, hvalue, hlow'⟩ | ⟨hnone, hbeyond⟩
  · have hcounted : counted m = m := if_neg (by omega)
    rw [hb, Option.getD_some, compareInt?_of_toInt? hvalue, hcounted]
  · rw [hnone, Option.getD_none]
    exact compareInt?_ofInt hlow hhigh hbeyond

end Number

end KeyedFilter
