import KeyedFilter.Schema.Constant
import KeyedFilter.Proofs.Text.UpperCase

/-!
# Filter names and their constants

The name of a constant is made of the words of the filter name: each word in upper case, with
underscores between them. So two filter names have the same constant when they have the same words in
upper case, and a filter name has a constant when it would be an identifier itself, were its dashes
underscores.

* `constantCharacters_cons`: one character of a filter name.
* `isIdentifier_constantName`: the filter names that have a constant.
* `constantName_eq_iff`: the filter names that have the same.
* `constantName_injective_of_snakeCase`: names in snake case have constants of their own.
-/

namespace KeyedFilter.Schema

open Text

/-- Does the character stand between words? -/
def separates (c : Char) : Bool :=
  c == '_' || c == '-'

/-- What becomes of a character, but for the underscore that a new word gets in front. -/
def capital (c : Char) : List Char :=
  if isUpperCase c then [c] else if separates c then ['_'] else upperCase c

theorem not_isUpperCase_of_separates {c : Char} (h : separates c = true) :
    isUpperCase c = false := by
  rw [separates, Bool.or_eq_true, beq_iff_eq, beq_iff_eq] at h
  obtain rfl | rfl := h <;> rfl

theorem not_isLowerCase_of_separates {c : Char} (h : separates c = true) :
    isLowerCase c = false := by
  rw [separates, Bool.or_eq_true, beq_iff_eq, beq_iff_eq] at h
  obtain rfl | rfl := h <;> rfl

theorem capital_of_separates {c : Char} (h : separates c = true) : capital c = ['_'] := by
  rw [capital, not_isUpperCase_of_separates h, if_neg Bool.false_ne_true, if_pos h]

theorem capital_ne_nil (c : Char) : capital c ≠ [] := by
  unfold capital
  split_ifs
  · exact List.cons_ne_nil c []
  · exact List.cons_ne_nil '_' []
  · exact upperCase_ne_nil c

/-- Does a word start at the character, behind a lower-case letter or not? -/
def startsWord (afterLower : Bool) (c : Char) : Bool :=
  afterLower && isUpperCase c

/-- Does a word start at an upper-case letter behind the character? -/
def endsLower (c : Char) : Bool :=
  !isUpperCase c && isLowerCase c

theorem constantCharacters_cons (afterLower : Bool) (c : Char) (rest : List Char) :
    constantCharacters afterLower (c :: rest) =
      (if startsWord afterLower c then ['_'] else []) ++ capital c ++
        constantCharacters (endsLower c) rest := by
  rw [constantCharacters, startsWord, endsLower, capital]
  change (if isUpperCase c = true then _ else if separates c = true then _ else _) = _
  cases hupper : isUpperCase c with
  | true => cases afterLower <;> rfl
  | false =>
    cases hseparates : separates c with
    | true =>
      rw [not_isLowerCase_of_separates hseparates]
      cases afterLower <;> rfl
    | false => cases afterLower <;> rfl

/-! ### Names that have a constant -/

theorem all_continuesIdentifier_capital (c : Char) :
    (capital c).all continuesIdentifier = (continuesIdentifier c || c == '-') := by
  unfold capital
  split_ifs with hupper hseparates
  · have hdash : (c == '-') = false := by
      rw [beq_eq_false_iff_ne]
      rintro rfl
      cases hupper
    rw [List.all_cons, List.all_nil, hdash, Bool.and_true, Bool.or_false]
  · rw [separates, Bool.or_eq_true, beq_iff_eq, beq_iff_eq] at hseparates
    obtain rfl | rfl := hseparates <;> rfl
  · rw [separates, Bool.not_eq_true, Bool.or_eq_false_iff] at hseparates
    rw [all_continuesIdentifier_upperCase, hseparates.2, Bool.or_false]

theorem isIdentifier_capital (c : Char) :
    isIdentifier (String.ofList (capital c)) =
      (startsIdentifier c || c == '-' || c == iotaSubscript) := by
  unfold capital
  split_ifs with hupper hseparates
  · have hdash : (c == '-') = false := by
      rw [beq_eq_false_iff_ne]
      rintro rfl
      cases hupper
    have hiota : (c == iotaSubscript) = false := by
      rw [beq_eq_false_iff_ne]
      rintro rfl
      revert hupper
      decide +kernel
    rw [isIdentifier_ofList, List.all_nil, hdash, hiota, Bool.and_true, Bool.or_false,
      Bool.or_false]
  · rw [separates, Bool.or_eq_true, beq_iff_eq, beq_iff_eq] at hseparates
    obtain rfl | rfl := hseparates <;> rfl
  · rw [separates, Bool.not_eq_true, Bool.or_eq_false_iff] at hseparates
    rw [isIdentifier_upperCase, hseparates.2, Bool.or_false]

theorem all_continuesIdentifier_constantCharacters (afterLower : Bool) (name : List Char) :
    (constantCharacters afterLower name).all continuesIdentifier =
      name.all fun c => continuesIdentifier c || c == '-' := by
  induction name generalizing afterLower with
  | nil => rfl
  | cons c rest ih =>
    have hbreak : (if startsWord afterLower c then ['_'] else []).all continuesIdentifier = true := by
      split_ifs <;> rfl
    rw [constantCharacters_cons, List.all_append, List.all_append, hbreak, ih, Bool.true_and,
      all_continuesIdentifier_capital, List.all_cons]

/-- Is the name an identifier in which dashes may stand for underscores? The iota below a vowel may
come first as well, for its upper case is a letter. -/
def isNameable (name : String) : Bool :=
  match name.toList with
  | [] => false
  | c :: rest => (startsIdentifier c || c == '-' || c == iotaSubscript) &&
    rest.all fun d => continuesIdentifier d || d == '-'

/-- The filter names whose constant has an identifier as its name. -/
theorem isIdentifier_constantName (name : String) :
    isIdentifier (constantName name) = isNameable name := by
  rw [constantName, isNameable]
  cases name.toList with
  | nil => rfl
  | cons c rest =>
    rw [constantCharacters_cons, startsWord, Bool.false_and, if_neg Bool.false_ne_true,
      List.nil_append, isIdentifier_ofList_append (capital_ne_nil c), isIdentifier_capital,
      all_continuesIdentifier_constantCharacters]

/-! ### Names that have the same constant -/

/-- The words of a name. A word starts behind an underscore or a dash, and at an upper-case letter
behind a lower-case one. -/
def words (afterLower : Bool) : List Char → List (List Char)
  | [] => [[]]
  | c :: rest =>
    let later := words (endsLower c) rest
    if separates c then [] :: later
    else if startsWord afterLower c then [] :: later.modifyHead (c :: ·)
    else later.modifyHead (c :: ·)

theorem words_ne_nil (afterLower : Bool) (name : List Char) : words afterLower name ≠ [] := by
  induction name generalizing afterLower with
  | nil => exact List.cons_ne_nil [] []
  | cons c rest ih =>
    rw [words]
    split_ifs
    · exact List.cons_ne_nil _ _
    · exact List.cons_ne_nil _ _
    · rw [ne_eq, List.modifyHead_eq_nil_iff]
      exact ih _

theorem not_separates_of_mem_words {afterLower : Bool} {name word : List Char} {c : Char}
    (hword : word ∈ words afterLower name) (hc : c ∈ word) : separates c = false := by
  induction name generalizing afterLower word with
  | nil =>
    rw [words, List.mem_singleton] at hword
    rw [hword] at hc
    cases hc
  | cons d rest ih =>
    obtain ⟨first, later, hrest⟩ := List.exists_cons_of_ne_nil (words_ne_nil (endsLower d) rest)
    have hempty : word ≠ [] := List.ne_nil_of_mem hc
    rw [words, hrest, List.modifyHead_cons] at hword
    have hlater : word ∈ first :: later → separates c = false := fun hword =>
      ih (hrest ▸ hword) hc
    have hjoined : separates d ≠ true → word ∈ (d :: first) :: later → separates c = false := by
      intro hd hword
      obtain rfl | hword := List.mem_cons.1 hword
      · obtain rfl | hc := List.mem_cons.1 hc
        · exact eq_false_of_ne_true hd
        · exact ih (hrest ▸ List.mem_cons_self) hc
      · exact hlater (List.mem_cons_of_mem first hword)
    split_ifs at hword with hd
    · exact hlater (List.mem_of_ne_of_mem hempty hword)
    · exact hjoined hd (List.mem_of_ne_of_mem hempty hword)
    · exact hjoined hd hword

theorem intercalate_nil_cons {α : Type} {sep word : List α} {rest : List (List α)} :
    sep.intercalate ([] :: word :: rest) = sep ++ sep.intercalate (word :: rest) := by
  rw [List.intercalate_cons_cons, List.nil_append]

theorem intercalate_append_cons {α : Type} {sep front word : List α} {rest : List (List α)} :
    sep.intercalate ((front ++ word) :: rest) = front ++ sep.intercalate (word :: rest) := by
  cases rest with
  | nil => simp
  | cons next later => simp [List.intercalate_cons_cons]

/-- The name of a constant is that of its words, with underscores between them. -/
theorem constantCharacters_eq (afterLower : Bool) (name : List Char) :
    constantCharacters afterLower name =
      ['_'].intercalate ((words afterLower name).map (·.flatMap capital)) := by
  induction name generalizing afterLower with
  | nil => rfl
  | cons c rest ih =>
    obtain ⟨word, later, hrest⟩ := List.exists_cons_of_ne_nil (words_ne_nil (endsLower c) rest)
    rw [constantCharacters_cons, ih, words, hrest, List.modifyHead_cons]
    cases hseparates : separates c with
    | true =>
      have hstarts : startsWord afterLower c = false := by
        rw [startsWord, not_isUpperCase_of_separates hseparates, Bool.and_false]
      simp only [hstarts, capital_of_separates hseparates, if_true, List.map_cons, List.flatMap_nil,
        intercalate_nil_cons, Bool.false_eq_true, if_false, List.nil_append]
    | false =>
      cases startsWord afterLower c <;>
        simp only [if_true, Bool.false_eq_true, if_false, List.map_cons, List.flatMap_nil,
          List.flatMap_cons, intercalate_nil_cons, intercalate_append_cons, List.nil_append,
          List.append_assoc]

theorem underscore_notMem_capital {c : Char} (h : separates c = false) : '_' ∉ capital c := by
  have hc : c ≠ '_' := by
    rintro rfl
    cases h
  rw [capital, h, if_neg Bool.false_ne_true]
  split_ifs
  · exact fun hmem => hc (List.mem_singleton.1 hmem).symm
  · exact fun hmem => hc (eq_of_underscore_mem_upperCase hmem)

/-- The words of a filter name in upper case. -/
def capitalWords (name : String) : List (List Char) :=
  (words false name.toList).map (·.flatMap capital)

theorem splitOn_constantName (name : String) :
    (constantName name).toList.splitOn '_' = capitalWords name := by
  rw [constantName, String.toList_ofList, constantCharacters_eq]
  apply List.splitOn_intercalate
  · rw [List.forall_mem_map]
    intro word hword hmem
    obtain ⟨c, hc, hunderscore⟩ := List.mem_flatMap.1 hmem
    exact underscore_notMem_capital (not_separates_of_mem_words hword hc) hunderscore
  · rw [ne_eq, List.map_eq_nil_iff]
    exact words_ne_nil false name.toList

/-- Two filter names have the same constant when they have the same words in upper case. -/
theorem constantName_eq_iff {a b : String} :
    constantName a = constantName b ↔ capitalWords a = capitalWords b := by
  constructor
  · intro h
    rw [← splitOn_constantName, h, splitOn_constantName]
  · intro h
    rw [constantName, constantName, constantCharacters_eq, constantCharacters_eq]
    exact congrArg (fun words => String.ofList (['_'].intercalate words)) h

example : capitalWords "unitPrice" = capitalWords "unit-price" := by decide

/-! ### Names in snake case -/

/-- Is the character a lower-case letter or digit of ASCII, or the underscore? -/
def isSnakeCharacter (c : Char) : Bool :=
  c.isLower || c.isDigit || c == '_'

/-- Is the name in snake case, as in `created_at`? -/
def isSnakeCase (name : String) : Bool :=
  name.toList.all isSnakeCharacter

theorem toNat_lt_of_isSnakeCharacter {c : Char} (h : isSnakeCharacter c = true) :
    c.toNat < 0x80 := by
  have hlower : c.isLower = (decide ('a'.val ≤ c.val) && decide (c.val ≤ 'z'.val)) := rfl
  have hdigit : c.isDigit = (decide ('0'.val ≤ c.val) && decide (c.val ≤ '9'.val)) := rfl
  rw [isSnakeCharacter, hlower, hdigit] at h
  simp only [Bool.or_eq_true, Bool.and_eq_true, decide_eq_true_eq, beq_iff_eq,
    UInt32.le_iff_toNat_le] at h
  obtain (⟨-, h⟩ | ⟨-, h⟩) | rfl := h
  · exact Nat.lt_of_le_of_lt h (by decide)
  · exact Nat.lt_of_le_of_lt h (by decide)
  · decide

theorem upper_of_isSnakeCharacter {c : Char} (h : isSnakeCharacter c = true) :
    isUpperCase c = false ∧ capital c = [c.toUpper] ∧ c.toUpper.toLower = c := by
  have hall : ∀ n < 0x80, isSnakeCharacter (Char.ofNat n) = true →
    isUpperCase (Char.ofNat n) = false ∧ capital (Char.ofNat n) = [(Char.ofNat n).toUpper] ∧
      (Char.ofNat n).toUpper.toLower = Char.ofNat n := by decide
  exact forall_ascii (P := fun c => isSnakeCharacter c = true →
    isUpperCase c = false ∧ capital c = [c.toUpper] ∧ c.toUpper.toLower = c)
    hall (toNat_lt_of_isSnakeCharacter h) h

theorem constantCharacters_of_snakeCase {name : List Char} (h : name.all isSnakeCharacter = true)
    (afterLower : Bool) : constantCharacters afterLower name = name.map Char.toUpper := by
  induction name generalizing afterLower with
  | nil => rfl
  | cons c rest ih =>
    rw [List.all_cons, Bool.and_eq_true] at h
    obtain ⟨hupper, hcapital, -⟩ := upper_of_isSnakeCharacter h.1
    rw [constantCharacters_cons, startsWord, hupper, Bool.and_false, if_neg Bool.false_ne_true,
      hcapital, ih h.2]
    rfl

/-- The lower case of the constant is a filter name in snake case again. -/
theorem map_toLower_constantName {name : String} (h : isSnakeCase name = true) :
    (constantName name).toList.map Char.toLower = name.toList := by
  have hback : ∀ c ∈ name.toList, (Char.toLower ∘ Char.toUpper) c = id c := fun c hc =>
    (upper_of_isSnakeCharacter (List.all_eq_true.1 h c hc)).2.2
  rw [constantName, String.toList_ofList, constantCharacters_of_snakeCase h, List.map_map,
    List.map_congr_left hback, List.map_id]

/-- Names in snake case have constants of their own. -/
theorem constantName_injective_of_snakeCase {a b : String} (ha : isSnakeCase a = true)
    (hb : isSnakeCase b = true) (h : constantName a = constantName b) : a = b := by
  rw [← String.toList_inj, ← map_toLower_constantName ha, h, map_toLower_constantName hb]

end KeyedFilter.Schema
