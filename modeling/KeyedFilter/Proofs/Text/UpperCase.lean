import Mathlib.Data.List.Basic
import Mathlib.Tactic.SplitIfs
import KeyedFilter.Text.Case
import KeyedFilter.Text.Identifier

/-!
# Identifiers in upper case

The upper case of a letter may be several letters. Yet as to identifiers, a character and its upper
case are alike, and no other character than the underscore becomes one. There is one exception: the
iota below a Greek vowel can only stand inside an identifier, and its upper case is a letter.

* `CodeRange.inside`: a range among those of a table.
* `upperShifts_keep`, `upperExpansions_keep`: what the tables of upper cases say.
* `upperCase_cases`: letters in upper case and other characters.
* `all_continuesIdentifier_upperCase`, `isIdentifier_upperCase`: a character and its upper case.
* `eq_of_underscore_mem_upperCase`: no new underscores.
-/

namespace KeyedFilter.Text

/-- What holds of the ASCII characters one by one holds of all of them. -/
theorem forall_ascii {P : Char → Prop} (h : ∀ n < 0x80, P (Char.ofNat n)) {c : Char}
    (hc : c.toNat < 0x80) : P c := by
  rw [← Char.ofNat_toNat c]
  exact h c.toNat hc

theorem isIdentifier_ofList (c : Char) (rest : List Char) :
    isIdentifier (String.ofList (c :: rest)) =
      (startsIdentifier c && rest.all continuesIdentifier) := by
  rw [isIdentifier, String.toList_ofList]

theorem isIdentifier_ofList_append {front : List Char} (hfront : front ≠ []) (back : List Char) :
    isIdentifier (String.ofList (front ++ back)) =
      (isIdentifier (String.ofList front) && back.all continuesIdentifier) := by
  cases front with
  | nil => exact absurd rfl hfront
  | cons c rest =>
    rw [List.cons_append, isIdentifier_ofList, isIdentifier_ofList, List.all_append, Bool.and_assoc]

theorem continues_of_starts {c : Char} (h : startsIdentifier c = true) :
    continuesIdentifier c = true := by
  unfold startsIdentifier at h
  unfold continuesIdentifier
  split_ifs at h ⊢ with hascii
  · rw [Bool.or_eq_true] at h
    rw [Char.isAlphanum, Bool.or_eq_true]
    exact h.imp_left fun halpha => by rw [halpha, Bool.true_or]
  · rw [h, Bool.true_or]

theorem not_starts_of_not_continues {c : Char} (h : continuesIdentifier c = false) :
    startsIdentifier c = false := by
  rw [← Bool.not_eq_true]
  intro hstarts
  rw [continues_of_starts hstarts] at h
  cases h

/-! ### Ranges among the ranges of a table -/

namespace CodeRange

variable {range inner outer : CodeRange} {ranges : List CodeRange} {code : ℕ}

theorem holds_iff :
    range.holds code = true ↔ range.first ≤ code ∧ code ≤ range.last ∧
      range.step ∣ code - range.first := by
  rw [holds, Bool.and_eq_true, Bool.and_eq_true, decide_eq_true_iff, decide_eq_true_iff,
    beq_iff_eq, Nat.dvd_iff_mod_eq_zero, and_assoc]

/-- The code points of a range, one by one. -/
def codes (range : CodeRange) : List ℕ :=
  List.range' range.first ((range.last - range.first) / range.step + 1) range.step

theorem mem_codes (h : range.holds code = true) : code ∈ range.codes := by
  obtain ⟨hfirst, hlast, hstep⟩ := holds_iff.1 h
  refine List.mem_range'.2 ⟨(code - range.first) / range.step, ?_, ?_⟩
  · exact Nat.lt_succ_of_le (Nat.div_le_div_right (Nat.sub_le_sub_right hlast _))
  · rw [Nat.mul_div_cancel' hstep, Nat.add_sub_cancel' hfirst]

/-- Is every code point of the one range also in the other, by their ends and steps? The ends are
compared first, which in a sorted table rules out most ranges. -/
def within (inner outer : CodeRange) : Bool :=
  inner.last.ble outer.last && outer.first ≤ inner.first &&
    (inner.first - outer.first) % outer.step == 0 && inner.step % outer.step == 0

theorem holds_of_within (h : inner.within outer = true) (hcode : inner.holds code = true) :
    outer.holds code = true := by
  simp only [within, Bool.and_eq_true, Nat.ble_eq, decide_eq_true_iff, beq_iff_eq] at h
  obtain ⟨⟨⟨hlast, hfirst⟩, hoffset⟩, hstep⟩ := h
  obtain ⟨hcodeFirst, hcodeLast, hcodeStep⟩ := holds_iff.1 hcode
  refine holds_iff.2 ⟨Nat.le_trans hfirst hcodeFirst, Nat.le_trans hcodeLast hlast, ?_⟩
  have hsum : code - outer.first = (code - inner.first) + (inner.first - outer.first) := by omega
  rw [hsum]
  exact Nat.dvd_add (Nat.dvd_trans (Nat.dvd_of_mod_eq_zero hstep) hcodeStep)
    (Nat.dvd_of_mod_eq_zero hoffset)

/-- Is every code point of the range in one of the ranges? The range is sought as a whole before its
code points are, which takes long. -/
def inside (range : CodeRange) (ranges : List CodeRange) : Bool :=
  ranges.any range.within || range.codes.all fun code => ranges.any (·.holds code)

theorem holds_of_inside (h : range.inside ranges = true) (hcode : range.holds code = true) :
    ∃ outer ∈ ranges, outer.holds code = true := by
  rw [inside, Bool.or_eq_true, List.any_eq_true, List.all_eq_true] at h
  obtain ⟨outer, houter, hwithin⟩ | hcodes := h
  · exact ⟨outer, houter, holds_of_within hwithin hcode⟩
  · exact List.any_eq_true.1 (hcodes code (mem_codes hcode))

/-- One code point. -/
def single (code : ℕ) : CodeRange :=
  ⟨code, code, 1⟩

theorem single_holds (code : ℕ) : (single code).holds code = true :=
  holds_iff.2 ⟨Nat.le_refl code, Nat.le_refl code, Nat.one_dvd _⟩

theorem eq_of_single_holds {other : ℕ} (h : (single other).holds code = true) : code = other := by
  obtain ⟨hfirst, hlast, -⟩ := holds_iff.1 h
  exact Nat.le_antisymm hlast hfirst

/-- Does one of the ranges end before the other starts? -/
def apart (range other : CodeRange) : Bool :=
  other.last < range.first || range.last < other.first

theorem not_holds_of_apart (h : range.apart outer = true) (hcode : range.holds code = true) :
    ¬ outer.holds code = true := by
  rw [apart, Bool.or_eq_true, decide_eq_true_iff, decide_eq_true_iff] at h
  obtain ⟨hfirst, hlast, -⟩ := holds_iff.1 hcode
  rw [holds_iff]
  omega

end CodeRange

/-! ### The tables of identifiers -/

/-- The characters outside ASCII that may stand in an identifier. -/
def identifierRanges : List CodeRange :=
  identifierStartRanges ++ identifierInnerRanges

/-- The upper-case letters of ASCII. Upper case leads to no other characters of ASCII from outside. -/
def asciiCapitals : CodeRange :=
  ⟨0x41, 0x5a, 1⟩

theorem startsIdentifier_of_asciiCapitals {code : ℕ} (h : asciiCapitals.holds code = true) :
    startsIdentifier (Char.ofNat code) = true := by
  obtain ⟨hfirst, hlast, -⟩ := CodeRange.holds_iff.1 h
  have hall : ∀ code < 0x5b, 0x41 ≤ code → startsIdentifier (Char.ofNat code) = true := by decide
  exact hall code (Nat.lt_succ_of_le hlast) hfirst

/-- The tables hold characters, all of them outside ASCII. -/
theorem identifierRanges_chars : ∀ range ∈ identifierRanges,
    0x80 ≤ range.first ∧ (range.last < 0xd800 ∨ 0xe000 ≤ range.first ∧ range.last < 0x110000) := by
  decide +kernel

theorem toNat_ofNat {code : ℕ} (h : code.isValidChar) : (Char.ofNat code).toNat = code := by
  rw [Char.ofNat, dif_pos h]
  rfl

theorem toNat_ofNat_of_holds {range : CodeRange} (hmem : range ∈ identifierRanges) {code : ℕ}
    (h : range.holds code = true) : (Char.ofNat code).toNat = code ∧ ¬ code < 0x80 := by
  obtain ⟨hascii, hchars⟩ := identifierRanges_chars range hmem
  obtain ⟨hfirst, hlast, -⟩ := CodeRange.holds_iff.1 h
  have hvalid : code.isValidChar := by
    unfold Nat.isValidChar
    omega
  exact ⟨toNat_ofNat hvalid, by omega⟩

theorem continuesIdentifier_iff {c : Char} (hascii : ¬ c.toNat < 0x80) :
    continuesIdentifier c = true ↔ ∃ range ∈ identifierRanges, range.holds c.toNat = true := by
  rw [continuesIdentifier, if_neg hascii, inRanges, inRanges, ← List.any_append, List.any_eq_true,
    identifierRanges]

theorem startsIdentifier_iff {c : Char} (hascii : ¬ c.toNat < 0x80) :
    startsIdentifier c = true ↔ ∃ range ∈ identifierStartRanges, range.holds c.toNat = true := by
  rw [startsIdentifier, if_neg hascii, inRanges, List.any_eq_true]

theorem not_continues_ofNat {code : ℕ} (hascii : ¬ code < 0x80)
    (h : ∀ range ∈ identifierRanges, ¬ range.holds code = true) :
    continuesIdentifier (Char.ofNat code) = false := by
  rw [← Bool.not_eq_true]
  by_cases hvalid : code.isValidChar
  · have htoNat := toNat_ofNat hvalid
    rw [continuesIdentifier_iff (htoNat.symm ▸ hascii), htoNat]
    rintro ⟨range, hmem, hcode⟩
    exact h range hmem hcode
  · rw [Char.ofNat, dif_neg hvalid]
    decide

/-- Is the code point that of a letter, as which an identifier may start? -/
def StartCode (code : ℕ) : Prop :=
  ∃ range ∈ asciiCapitals :: identifierStartRanges, range.holds code = true

/-- Is the code point that of a character inside identifiers, but not a digit or an underscore? -/
def InnerCode (code : ℕ) : Prop :=
  ∃ range ∈ asciiCapitals :: identifierRanges, range.holds code = true

theorem StartCode.innerCode {code : ℕ} (h : StartCode code) : InnerCode code := by
  obtain ⟨range, hmem, hcode⟩ := h
  exact ⟨range, List.mem_append_left identifierInnerRanges hmem, hcode⟩

theorem StartCode.starts {code : ℕ} (h : StartCode code) :
    startsIdentifier (Char.ofNat code) = true := by
  obtain ⟨range, hmem, hcode⟩ := h
  obtain rfl | hmem := List.mem_cons.1 hmem
  · exact startsIdentifier_of_asciiCapitals hcode
  · obtain ⟨htoNat, hascii⟩ := toNat_ofNat_of_holds (List.mem_append_left _ hmem) hcode
    refine (startsIdentifier_iff (htoNat.symm ▸ hascii)).2 ⟨range, hmem, ?_⟩
    rw [htoNat, hcode]

theorem InnerCode.continues {code : ℕ} (h : InnerCode code) :
    continuesIdentifier (Char.ofNat code) = true := by
  obtain ⟨range, hmem, hcode⟩ := h
  obtain rfl | hmem := List.mem_cons.1 hmem
  · exact continues_of_starts (startsIdentifier_of_asciiCapitals hcode)
  · obtain ⟨htoNat, hascii⟩ := toNat_ofNat_of_holds hmem hcode
    refine (continuesIdentifier_iff (htoNat.symm ▸ hascii)).2 ⟨range, hmem, ?_⟩
    rw [htoNat, hcode]

theorem InnerCode.ne_underscore {code : ℕ} (h : InnerCode code) : Char.ofNat code ≠ '_' := by
  intro hunderscore
  obtain ⟨range, hmem, hcode⟩ := h
  obtain rfl | hmem := List.mem_cons.1 hmem
  · obtain ⟨hfirst, hlast, -⟩ := CodeRange.holds_iff.1 hcode
    have hall : ∀ code < 0x5b, 0x41 ≤ code → Char.ofNat code ≠ '_' := by decide
    exact hall code (Nat.lt_succ_of_le hlast) hfirst hunderscore
  · obtain ⟨htoNat, hascii⟩ := toNat_ofNat_of_holds hmem hcode
    rw [← htoNat, hunderscore] at hascii
    exact hascii (by decide)

/-! ### The tables of upper cases -/

/-- The iota below a Greek vowel, which only continues an identifier while its upper case is a
letter. -/
def iotaSubscript : Char :=
  '\u0345'

namespace CaseShift

/-- The code point of the upper case. -/
def image (shift : CaseShift) (code : ℕ) : ℕ :=
  code + shift.forward - shift.backward

/-- The code points of the upper cases. -/
def images (shift : CaseShift) : CodeRange :=
  ⟨shift.image shift.range.first, shift.image shift.range.last, shift.range.step⟩

/-- Does the shift lead from letters to letters? -/
def keepsLetters (shift : CaseShift) : Bool :=
  shift.images.inside (asciiCapitals :: identifierStartRanges) &&
    (shift.range.inside identifierStartRanges ||
      shift.range == CodeRange.single iotaSubscript.toNat)

/-- Does the shift lead from characters that are in no identifier to such characters? -/
def keepsOthers (shift : CaseShift) : Bool :=
  identifierRanges.all shift.range.apart && (⟨0, 0x7f, 1⟩ :: identifierRanges).all shift.images.apart

end CaseShift

/-- The only characters with an upper case that are in no identifier are the letters in circles. -/
theorem upperShifts_keep : (upperShifts.all fun shift =>
    shift.backward.ble shift.range.first && (shift.keepsLetters || shift.keepsOthers)) = true := by
  decide +kernel

/-- Are these the code points of an identifier? -/
def isIdentifierCodes : List ℕ → Bool
  | [] => false
  | code :: rest => (CodeRange.single code).inside (asciiCapitals :: identifierStartRanges) &&
    rest.all fun inner => (CodeRange.single inner).inside (asciiCapitals :: identifierRanges)

/-- A character whose upper case has several characters is a letter, and they are an identifier. -/
theorem upperExpansions_keep : (upperExpansions.all fun expansion =>
    (CodeRange.single expansion.1).inside identifierStartRanges &&
      isIdentifierCodes expansion.2) = true := by
  decide +kernel

theorem codes_of_isIdentifierCodes {codes : List ℕ} (h : isIdentifierCodes codes = true) :
    ∃ code rest, codes = code :: rest ∧ StartCode code ∧ ∀ inner ∈ codes, InnerCode inner := by
  cases codes with
  | nil => cases h
  | cons code rest =>
    rw [isIdentifierCodes, Bool.and_eq_true, List.all_eq_true] at h
    obtain ⟨hcode, hrest⟩ := h
    have hstart : StartCode code := CodeRange.holds_of_inside hcode (CodeRange.single_holds code)
    refine ⟨code, rest, rfl, hstart, List.forall_mem_cons.2 ⟨hstart.innerCode, ?_⟩⟩
    exact fun inner h => CodeRange.holds_of_inside (hrest inner h) (CodeRange.single_holds inner)

namespace CaseShift

variable {shift : CaseShift} {code : ℕ}

theorem images_holds (hbackward : shift.backward ≤ shift.range.first)
    (h : shift.range.holds code = true) : shift.images.holds (shift.image code) = true := by
  obtain ⟨hfirst, hlast, hstep⟩ := CodeRange.holds_iff.1 h
  refine CodeRange.holds_iff.2 ?_
  simp only [images, image]
  refine ⟨by omega, by omega, ?_⟩
  have hoffset : code + shift.forward - shift.backward -
      (shift.range.first + shift.forward - shift.backward) = code - shift.range.first := by omega
  rw [hoffset]
  exact hstep

/-- What a shift in the table does: letters stay letters, and others are in no identifier before and
after. -/
theorem image_cases (hmem : shift ∈ upperShifts) (h : shift.range.holds code = true) :
    (StartCode (shift.image code) ∧
      ((∃ range ∈ identifierStartRanges, range.holds code = true) ∨ code = iotaSubscript.toNat)) ∨
    (¬ shift.image code < 0x80 ∧
      (∀ range ∈ identifierRanges, ¬ range.holds (shift.image code) = true) ∧
      ∀ range ∈ identifierRanges, ¬ range.holds code = true) := by
  have hshift := List.all_eq_true.1 upperShifts_keep shift hmem
  rw [Bool.and_eq_true, Bool.or_eq_true, Nat.ble_eq] at hshift
  obtain ⟨hbackward, hletters | hothers⟩ := hshift
  · rw [keepsLetters, Bool.and_eq_true, Bool.or_eq_true, beq_iff_eq] at hletters
    obtain ⟨himages, hrange⟩ := hletters
    refine .inl ⟨CodeRange.holds_of_inside himages (images_holds hbackward h), ?_⟩
    refine hrange.imp (fun hinside => CodeRange.holds_of_inside hinside h) fun hiota => ?_
    rw [hiota] at h
    exact CodeRange.eq_of_single_holds h
  · rw [keepsOthers, Bool.and_eq_true, List.all_eq_true, List.all_eq_true] at hothers
    obtain ⟨hranges, himages⟩ := hothers
    have himage := fun range hrange =>
      CodeRange.not_holds_of_apart (himages range hrange) (images_holds hbackward h)
    refine .inr ⟨fun hascii => ?_, fun range hrange => himage range (List.mem_cons_of_mem _ hrange),
      fun range hrange => CodeRange.not_holds_of_apart (hranges range hrange) h⟩
    refine himage ⟨0, 0x7f, 1⟩ List.mem_cons_self (CodeRange.holds_iff.2 ⟨Nat.zero_le _, ?_, ?_⟩)
    · exact Nat.le_of_lt_succ hascii
    · exact Nat.one_dvd _

end CaseShift

/-! ### Upper case -/

/-- One character has another as its upper case that is alike in identifiers. -/
def AlikeInIdentifiers (c d : Char) : Prop :=
  startsIdentifier d = startsIdentifier c ∧ continuesIdentifier d = continuesIdentifier c ∧
    (d = '_' → c = '_')

/-- The upper case of a character: letters for a letter, or a character like itself. -/
theorem upperCase_cases (c : Char) :
    (∃ code rest, upperCase c = (code :: rest).map Char.ofNat ∧ StartCode code ∧
      (∀ inner ∈ code :: rest, InnerCode inner) ∧
      (startsIdentifier c = true ∨ c = iotaSubscript)) ∨
    ∃ d, upperCase c = [d] ∧ AlikeInIdentifiers c d := by
  rw [upperCase]
  split_ifs with hascii
  · have hall : ∀ n < 0x80, startsIdentifier (Char.ofNat n).toUpper = startsIdentifier (Char.ofNat n) ∧
      continuesIdentifier (Char.ofNat n).toUpper = continuesIdentifier (Char.ofNat n) ∧
      ((Char.ofNat n).toUpper = '_' → Char.ofNat n = '_') := by decide
    exact .inr ⟨c.toUpper, rfl,
      forall_ascii (P := fun c => AlikeInIdentifiers c c.toUpper) hall hascii⟩
  · rw [upperCaseOutsideAscii]
    cases hexpansion : upperExpansions.lookup c.toNat with
    | some codes =>
      obtain ⟨front, back, hsplit, -⟩ := List.lookup_eq_some_iff.1 hexpansion
      have hmem : (c.toNat, codes) ∈ upperExpansions := by simp [hsplit]
      have hkeep := List.all_eq_true.1 upperExpansions_keep _ hmem
      rw [Bool.and_eq_true] at hkeep
      obtain ⟨code, rest, rfl, hcode, hinner⟩ := codes_of_isIdentifierCodes hkeep.2
      refine .inl ⟨code, rest, rfl, hcode, hinner, .inl ((startsIdentifier_iff hascii).2 ?_)⟩
      exact CodeRange.holds_of_inside hkeep.1 (CodeRange.single_holds c.toNat)
    | none =>
      cases hshift : upperShifts.find? (·.range.holds c.toNat) with
      | some shift =>
        have hmem := List.mem_of_find?_eq_some hshift
        have hholds := List.find?_some hshift
        obtain ⟨hcode, hletter⟩ | ⟨himageAscii, himage, hother⟩ :=
          CaseShift.image_cases hmem hholds
        · refine .inl ⟨shift.image c.toNat, [], rfl, hcode, ?_, ?_⟩
          · exact List.forall_mem_singleton.2 hcode.innerCode
          · refine hletter.imp (startsIdentifier_iff hascii).2 fun hiota => ?_
            rw [← Char.ofNat_toNat c, hiota, Char.ofNat_toNat]
        · have himageContinues := not_continues_ofNat himageAscii himage
          have hcontinues : continuesIdentifier c = false := by
            rw [← Char.ofNat_toNat c]
            exact not_continues_ofNat hascii hother
          refine .inr ⟨Char.ofNat (shift.image c.toNat), rfl, ?_, ?_, fun hunderscore => ?_⟩
          · rw [not_starts_of_not_continues himageContinues, not_starts_of_not_continues hcontinues]
          · rw [himageContinues, hcontinues]
          · rw [hunderscore] at himageContinues
            cases himageContinues
      | none => exact .inr ⟨c, rfl, rfl, rfl, id⟩

theorem continuesIdentifier_iotaSubscript : continuesIdentifier iotaSubscript = true := by
  decide +kernel

theorem upperCase_iotaSubscript : upperCase iotaSubscript = ['Ι'] := by
  decide +kernel

theorem upperCase_ne_nil (c : Char) : upperCase c ≠ [] := by
  obtain ⟨code, rest, hupper, -⟩ | ⟨d, hupper, -⟩ := upperCase_cases c <;> simp [hupper]

/-- The upper case of a character is made of characters of identifiers when it is one itself. -/
theorem all_continuesIdentifier_upperCase (c : Char) :
    (upperCase c).all continuesIdentifier = continuesIdentifier c := by
  obtain ⟨code, rest, hupper, hcode, hinner, hletter⟩ | ⟨d, hupper, -, hcontinues, -⟩ :=
    upperCase_cases c
  · have hc : continuesIdentifier c = true :=
      hletter.elim continues_of_starts fun hiota => hiota ▸ continuesIdentifier_iotaSubscript
    rw [hupper, hc, List.all_eq_true, List.forall_mem_map]
    exact fun inner h => (hinner inner h).continues
  · rw [hupper, List.all_cons, List.all_nil, Bool.and_true, hcontinues]

/-- The upper case of a character is an identifier when an identifier may start with the character,
and for the iota below a vowel. -/
theorem isIdentifier_upperCase (c : Char) :
    isIdentifier (String.ofList (upperCase c)) = (startsIdentifier c || c == iotaSubscript) := by
  obtain ⟨code, rest, hupper, hcode, hinner, hletter⟩ | ⟨d, hupper, hstarts, -, -⟩ :=
    upperCase_cases c
  · have hrest : ∀ inner ∈ rest, continuesIdentifier (Char.ofNat inner) = true :=
      fun inner h => (hinner inner (List.mem_cons_of_mem code h)).continues
    have hc : (startsIdentifier c || c == iotaSubscript) = true := by
      rw [Bool.or_eq_true, beq_iff_eq]
      exact hletter
    rw [hupper, List.map_cons, isIdentifier_ofList, hcode.starts, hc, Bool.true_and,
      List.all_eq_true, List.forall_mem_map]
    exact hrest
  · rw [hupper, isIdentifier_ofList, List.all_nil, Bool.and_true]
    cases hiota : c == iotaSubscript with
    | false => rw [hstarts, Bool.or_false]
    | true =>
      rw [beq_iff_eq] at hiota
      rw [hiota, upperCase_iotaSubscript] at hupper
      obtain rfl := List.singleton_inj.1 hupper
      rw [Bool.or_true]
      decide +kernel

/-- Only the underscore becomes one. -/
theorem eq_of_underscore_mem_upperCase {c : Char} (h : '_' ∈ upperCase c) : c = '_' := by
  obtain ⟨code, rest, hupper, -, hinner, -⟩ | ⟨d, hupper, -, -, hd⟩ := upperCase_cases c
  · rw [hupper] at h
    obtain ⟨inner, hmem, hunderscore⟩ := List.mem_map.1 h
    exact absurd hunderscore (hinner inner hmem).ne_underscore
  · rw [hupper, List.mem_singleton] at h
    exact hd h.symm

end KeyedFilter.Text
