import KeyedFilter.Proofs.Number.Numeral

/-!
# The grammar of numerals

The texts that are read as a double, and what they stand for:

    double   ::= sign? ( "inf" | "infinity" | "nan" | mantissa exponent? )
    mantissa ::= digit+ | digit+ "." digit* | digit* "." digit+
    exponent ::= "e" sign? digit+

The case of letters does not count. Each rule is a relation between a text and what it stands for,
and the reader that goes with the rule accepts just the texts that have a derivation.

* `Grammar.WholeText`, `Grammar.Mantissa`, `Grammar.Exponent`: the parts.
* `Grammar.Denotes`: a text stands for a decimal, an infinity or no number.
* `readInt?_eq_some_iff`, `readDecimal?_eq_some_iff`, `readBinary64?_eq_some_iff`: the readers.
-/

namespace KeyedFilter

namespace Grammar

/-- Nothing but digits. -/
def Digits (text : List Char) : Prop := ∀ c ∈ text, c.isDigit = true

/-- An optional sign: is it a minus? -/
inductive Sign : List Char → Bool → Prop where
  | absent : Sign [] false
  | plus : Sign ['+'] false
  | minus : Sign ['-'] true

/-- An optional sign and at least one digit, and their whole number. -/
inductive WholeText : List Char → ℤ → Prop where
  | mk {sign digits : List Char} {minus : Bool} :
      Sign sign minus → digits ≠ [] → Digits digits →
      WholeText (sign ++ digits)
        (if minus then -(Nat.ofDigitChars 10 digits 0 : ℤ) else Nat.ofDigitChars 10 digits 0)

/-- Digits with an optional point and at least one digit: all of them as a whole number, and how many
of them stand behind the point. -/
inductive Mantissa : List Char → ℕ → ℕ → Prop where
  | whole {digits : List Char} :
      digits ≠ [] → Digits digits → Mantissa digits (Nat.ofDigitChars 10 digits 0) 0
  | point {digits decimals : List Char} :
      digits ++ decimals ≠ [] → Digits digits → Digits decimals →
      Mantissa (digits ++ '.' :: decimals) (Nat.ofDigitChars 10 (digits ++ decimals) 0)
        decimals.length

/-- An optional exponent. -/
inductive Exponent : List Char → ℤ → Prop where
  | absent : Exponent [] 0
  | present {e : Char} {text : List Char} {n : ℤ} :
      e = 'e' ∨ e = 'E' → WholeText text n → Exponent (e :: text) n

/-- A word, in any case. -/
def IsWord (word text : List Char) : Prop := text.map Char.toLower = word

instance (word text : List Char) : Decidable (IsWord word text) :=
  inferInstanceAs (Decidable (_ = _))

/-- What a numeral stands for. -/
inductive Denoted where
  | decimal (d : Decimal)
  | infinity (negative : Bool)
  | nan

/-- The numerals. -/
inductive Denotes : List Char → Denoted → Prop where
  | decimal {sign mantissa exponent : List Char} {minus : Bool} {n k : ℕ} {e : ℤ} :
      Sign sign minus → Mantissa mantissa n k → Exponent exponent e →
      Denotes (sign ++ (mantissa ++ exponent)) (.decimal ⟨minus, n, e - k⟩)
  | infinity {sign text : List Char} {minus : Bool} :
      Sign sign minus →
      IsWord ['i', 'n', 'f'] text ∨ IsWord ['i', 'n', 'f', 'i', 'n', 'i', 't', 'y'] text →
      Denotes (sign ++ text) (.infinity minus)
  | nan {sign text : List Char} {minus : Bool} :
      Sign sign minus → IsWord ['n', 'a', 'n'] text → Denotes (sign ++ text) .nan

/-- What a numeral stands for, as a double. -/
def Denoted.toBinary64 : Denoted → Binary64
  | decimal d => d.toBinary64
  | infinity negative => .infinite negative
  | nan => .nan

/-! ### Signs -/

theorem sign_takeSign (text : List Char) :
    ∃ sign, Sign sign (takeSign text).1 ∧ text = sign ++ (takeSign text).2 := by
  unfold takeSign
  split
  · exact ⟨['-'], .minus, rfl⟩
  · exact ⟨['+'], .plus, rfl⟩
  · exact ⟨[], .absent, rfl⟩

/-- A text that does not start with a sign. -/
def Unsigned (text : List Char) : Prop := ∀ c ∈ text.head?, c ≠ '-' ∧ c ≠ '+'

variable {sign text digits : List Char} {minus : Bool}

theorem takeSign_append (hsign : Sign sign minus) (htext : Unsigned text) :
    takeSign (sign ++ text) = (minus, text) := by
  cases hsign with
  | plus | minus => rfl
  | absent =>
    rw [List.nil_append]
    unfold takeSign
    split
    · exact absurd rfl (htext '-' rfl).1
    · exact absurd rfl (htext '+' rfl).2
    · rfl

theorem unsigned_cons {c : Char} (h : c ≠ '-' ∧ c ≠ '+') (rest : List Char) :
    Unsigned (c :: rest) := by
  rintro d ⟨⟩
  exact h

theorem unsigned_of_isDigit {c : Char} (h : c.isDigit = true) : c ≠ '-' ∧ c ≠ '+' := by
  constructor <;> rintro rfl <;> exact absurd h (by decide)

/-- A sign is its own lower case, so a word starts with none in any case. -/
theorem IsWord.unsigned {word : List Char} (h : IsWord word text) (hword : Unsigned word) :
    Unsigned text := by
  intro c hc
  have hlower : c.toLower ∈ word.head? := by
    rw [← h, List.head?_map]
    exact Option.mem_map_of_mem _ hc
  constructor <;> rintro rfl
  · exact (hword _ hlower).1 rfl
  · exact (hword _ hlower).2 rfl

/-! ### Whole numbers -/

theorem WholeText.exists_numeral {m : ℤ} (h : WholeText text m) :
    ∃ numeral : WholeNumeral, numeral.core = text ∧ numeral.value = m := by
  obtain ⟨hsign, hne, hdigits⟩ := h
  rename_i sign digits minus
  have hblank : ∀ c ∈ ([] : List Char), Text.isBlank c = true := fun c hc => by cases hc
  cases hsign with
  | absent => exact ⟨⟨[], none, digits, [], hne, hdigits, hblank, hblank⟩, rfl, rfl⟩
  | plus => exact ⟨⟨[], some false, digits, [], hne, hdigits, hblank, hblank⟩, rfl, rfl⟩
  | minus => exact ⟨⟨[], some true, digits, [], hne, hdigits, hblank, hblank⟩, rfl, rfl⟩

end Grammar

open Grammar

variable {text : List Char}

theorem readInt?_eq_some_iff {m : ℤ} : readInt? text = some m ↔ WholeText text m := by
  constructor
  · intro h
    obtain ⟨sign, hsign, htext⟩ := sign_takeSign text
    unfold readInt? at h
    cases htake : takeSign text with
    | mk minus digits =>
      simp only [htake] at h hsign htext
      split at h
      · cases h
      · next haccepted =>
        simp only [Bool.or_eq_true, Bool.not_eq_true', not_or, Bool.not_eq_false,
          List.isEmpty_iff, List.all_eq_true] at haccepted
        obtain rfl := Option.some.inj h
        rw [htext]
        exact .mk hsign haccepted.1 haccepted.2
  · intro h
    obtain ⟨numeral, rfl, rfl⟩ := h.exists_numeral
    exact numeral.readInt?_core

theorem readExponent?_eq_some_iff {e : ℤ} : readExponent? text = some e ↔ Exponent text e := by
  cases text with
  | nil =>
    constructor
    · intro h
      obtain rfl := Option.some.inj h
      exact .absent
    · rintro ⟨⟩
      rfl
  | cons c rest =>
    simp only [readExponent?, Bool.or_eq_true, beq_iff_eq]
    constructor
    · intro h
      split_ifs at h with hc
      exact .present hc (readInt?_eq_some_iff.1 h)
    · rintro ⟨⟩
      rename_i hc hwhole
      rw [if_pos hc]
      exact readInt?_eq_some_iff.2 hwhole

/-! ### Decimals -/

namespace Grammar

/-- A text that does not start with a digit. -/
def NoDigit (text : List Char) : Prop := ∀ c ∈ text.head?, c.isDigit = false

theorem Exponent.noDigit {e : ℤ} (h : Exponent text e) : NoDigit text := by
  intro c hc
  cases h with
  | absent => cases hc
  | present he _ =>
    obtain rfl := Option.some.inj hc
    rcases he with rfl | rfl <;> rfl

theorem Exponent.ne_point {e : ℤ} (h : Exponent text e) (more : List Char) :
    text ≠ '.' :: more := by
  cases h with
  | absent => exact List.cons_ne_nil _ _ ∘ Eq.symm
  | present he _ =>
    intro heq
    obtain ⟨rfl, -⟩ := List.cons.inj heq
    rcases he with he | he <;> exact absurd he (by decide)

variable {digits rest : List Char}

theorem takeWhile_digits (hdigits : Digits digits) (hrest : NoDigit rest) :
    (digits ++ rest).takeWhile Char.isDigit = digits := by
  rw [List.takeWhile_append_of_pos hdigits]
  cases rest with
  | nil => simp
  | cons c rest => simp [hrest c rfl]

theorem dropWhile_digits (hdigits : Digits digits) (hrest : NoDigit rest) :
    (digits ++ rest).dropWhile Char.isDigit = rest := by
  rw [List.dropWhile_append_of_pos hdigits]
  cases rest with
  | nil => rfl
  | cons c rest => simp [hrest c rfl]

theorem exists_digits_append (text : List Char) :
    ∃ digits rest, Digits digits ∧ NoDigit rest ∧ text = digits ++ rest := by
  refine ⟨text.takeWhile Char.isDigit, text.dropWhile Char.isDigit,
    fun c hc => List.mem_takeWhile_imp hc, fun c hc => ?_,
    List.takeWhile_append_dropWhile.symm⟩
  have := List.head?_dropWhile_not Char.isDigit text
  rw [Option.mem_def.1 hc] at this
  simpa using this

end Grammar

variable {digits decimals rest : List Char}

theorem readDecimal?_whole (negative : Bool) (hdigits : Digits digits) (hrest : NoDigit rest)
    (hpoint : ∀ more, rest ≠ '.' :: more) :
    readDecimal? negative (digits ++ rest) =
      if digits = [] then none
      else (readExponent? rest).map fun e => ⟨negative, Nat.ofDigitChars 10 digits 0, e - (0 : ℕ)⟩ := by
  simp only [readDecimal?, takeWhile_digits hdigits hrest, dropWhile_digits hdigits hrest,
    List.isEmpty_nil, Bool.and_true, List.isEmpty_iff, List.append_nil, List.length_nil]
  rfl

theorem readDecimal?_point (negative : Bool) (hdigits : Digits digits) (hdecimals : Digits decimals)
    (hrest : NoDigit rest) :
    readDecimal? negative (digits ++ '.' :: (decimals ++ rest)) =
      if digits ++ decimals = [] then none
      else (readExponent? rest).map fun e =>
        ⟨negative, Nat.ofDigitChars 10 (digits ++ decimals) 0, e - decimals.length⟩ := by
  have hpoint : NoDigit ('.' :: (decimals ++ rest)) := by
    rintro c ⟨⟩
    rfl
  simp only [readDecimal?, takeWhile_digits hdigits hpoint, dropWhile_digits hdigits hpoint,
    takeWhile_digits hdecimals hrest, dropWhile_digits hdecimals hrest, Bool.and_eq_true,
    List.isEmpty_iff, List.append_eq_nil_iff]
  rfl

theorem readDecimal?_eq_some_iff {negative : Bool} {d : Decimal} :
    readDecimal? negative text = some d ↔ ∃ mantissa exponent n k e,
      text = mantissa ++ exponent ∧ Mantissa mantissa n k ∧ Exponent exponent e ∧
        d = ⟨negative, n, e - k⟩ := by
  constructor
  · intro h
    obtain ⟨digits, rest, hdigits, hrest, rfl⟩ := exists_digits_append text
    by_cases hpoint : ∃ more, rest = '.' :: more
    · obtain ⟨more, rfl⟩ := hpoint
      obtain ⟨decimals, rest, hdecimals, hbehind, rfl⟩ := exists_digits_append more
      rw [readDecimal?_point negative hdigits hdecimals hbehind] at h
      split_ifs at h with hempty
      obtain ⟨e, he, rfl⟩ := Option.map_eq_some_iff.1 h
      exact ⟨digits ++ '.' :: decimals, rest, _, _, e, by simp, .point hempty hdigits hdecimals,
        readExponent?_eq_some_iff.1 he, rfl⟩
    · rw [readDecimal?_whole negative hdigits hrest (not_exists.1 hpoint)] at h
      split_ifs at h with hempty
      obtain ⟨e, he, rfl⟩ := Option.map_eq_some_iff.1 h
      exact ⟨digits, rest, _, _, e, rfl, .whole hempty hdigits, readExponent?_eq_some_iff.1 he, rfl⟩
  · rintro ⟨mantissa, exponent, n, k, e, rfl, hmantissa, hexponent, rfl⟩
    have hread := readExponent?_eq_some_iff.2 hexponent
    cases hmantissa with
    | whole hne hdigits =>
      rw [readDecimal?_whole negative hdigits hexponent.noDigit hexponent.ne_point, if_neg hne,
        hread]
      rfl
    | point hne hdigits hdecimals =>
      rw [List.append_assoc, List.cons_append,
        readDecimal?_point negative hdigits hdecimals hexponent.noDigit, if_neg hne, hread]
      rfl

/-! ### Doubles -/

namespace Grammar

variable {minus : Bool}

/-- A mantissa starts with a digit or a point. -/
theorem Mantissa.exists_head {n k : ℕ} (h : Mantissa text n k) :
    ∃ c rest, text = c :: rest ∧ (c.isDigit = true ∨ c = '.') := by
  cases h with
  | whole hne hdigits =>
    obtain ⟨c, rest, rfl⟩ := List.exists_cons_of_ne_nil hne
    exact ⟨c, rest, rfl, .inl (hdigits c List.mem_cons_self)⟩
  | @point digits decimals _ hdigits _ =>
    cases digits with
    | nil => exact ⟨'.', decimals, rfl, .inr rfl⟩
    | cons c rest => exact ⟨c, rest ++ '.' :: decimals, rfl, .inl (hdigits c List.mem_cons_self)⟩

theorem Mantissa.unsigned {n k : ℕ} (h : Mantissa text n k) (rest : List Char) :
    Unsigned (text ++ rest) := by
  obtain ⟨c, tail, rfl, hc⟩ := h.exists_head
  refine unsigned_cons ?_ _
  rcases hc with hdigit | rfl
  · exact unsigned_of_isDigit hdigit
  · decide

theorem Mantissa.not_isWord {n k : ℕ} (h : Mantissa text n k) (rest : List Char) {c : Char}
    (hletter : c.isDigit = false ∧ c ≠ '.') (letters : List Char) :
    ¬ IsWord (c :: letters) (text ++ rest) := by
  obtain ⟨d, tail, rfl, hd⟩ := h.exists_head
  intro hword
  obtain ⟨hlower, -⟩ := List.cons.inj hword
  rcases hd with hdigit | rfl
  · rw [← hlower, Text.toLower_of_isDigit hdigit, hdigit] at hletter
    exact absurd hletter.1 (by decide)
  · exact hletter.2 hlower.symm

end Grammar

theorem readBinary64?_eq (text : List Char) : readBinary64? text =
    if IsWord ['i', 'n', 'f'] (takeSign text).2 ∨
        IsWord ['i', 'n', 'f', 'i', 'n', 'i', 't', 'y'] (takeSign text).2 then
      some (.infinite (takeSign text).1)
    else if IsWord ['n', 'a', 'n'] (takeSign text).2 then some .nan
    else (readDecimal? (takeSign text).1 (takeSign text).2).map Decimal.toBinary64 := by
  have hword : ∀ word rest : List Char,
      (String.ofList (rest.map Char.toLower) == String.ofList word) = true ↔ IsWord word rest := by
    intro word rest
    rw [beq_iff_eq, String.ofList_inj, IsWord]
  simp only [← hword, ← Bool.or_eq_true]
  rfl

/-- **The texts that are read as a double are the numerals.** -/
theorem readBinary64?_eq_some_iff {x : Binary64} :
    readBinary64? text = some x ↔ ∃ d, Denotes text d ∧ d.toBinary64 = x := by
  constructor
  · intro h
    obtain ⟨sign, hsign, htext⟩ := sign_takeSign text
    rw [readBinary64?_eq] at h
    rw [htext]
    split_ifs at h with hinfinity hnan
    · exact ⟨_, .infinity hsign hinfinity, Option.some.inj h⟩
    · exact ⟨_, .nan hsign hnan, Option.some.inj h⟩
    · obtain ⟨d, hd, rfl⟩ := Option.map_eq_some_iff.1 h
      obtain ⟨mantissa, exponent, n, k, e, hrest, hmantissa, hexponent, rfl⟩ :=
        readDecimal?_eq_some_iff.1 hd
      rw [hrest]
      exact ⟨_, .decimal hsign hmantissa hexponent, rfl⟩
  · rintro ⟨d, hd, rfl⟩
    rw [readBinary64?_eq]
    cases hd with
    | @decimal _ mantissa exponent minus n k e hsign hmantissa hexponent =>
      have hinfinity := hmantissa.not_isWord exponent (c := 'i') (by decide)
      have hnan := hmantissa.not_isWord exponent (c := 'n') (by decide)
      have hread : readDecimal? minus (mantissa ++ exponent) = some ⟨minus, n, e - k⟩ :=
        readDecimal?_eq_some_iff.2 ⟨_, _, _, _, _, rfl, hmantissa, hexponent, rfl⟩
      rw [takeSign_append hsign (hmantissa.unsigned exponent),
        if_neg (not_or.2 ⟨hinfinity _, hinfinity _⟩), if_neg (hnan _), hread]
      rfl
    | infinity hsign hword =>
      have hunsigned := hword.elim (IsWord.unsigned · (unsigned_cons (by decide) _))
        (IsWord.unsigned · (unsigned_cons (by decide) _))
      rw [takeSign_append hsign hunsigned, if_pos hword]
      rfl
    | nan hsign hword =>
      have hother : ∀ word ≠ ['n', 'a', 'n'], ¬ IsWord word _ :=
        fun word hne h => hne (Eq.trans (Eq.symm h) hword)
      rw [takeSign_append hsign (hword.unsigned (unsigned_cons (by decide) _)),
        if_neg (not_or.2 ⟨hother _ (by decide), hother _ (by decide)⟩), if_pos hword]
      rfl

end KeyedFilter
