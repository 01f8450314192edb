import Mathlib.Data.List.DropRight
import KeyedFilter.Text.Blank

/-!
# White space around a text

Without the blanks at its two ends, a text is the one part of itself that neither starts nor ends
with white space and has nothing but white space before and behind it.

* `Text.whiteSpace`, `Text.isBlank_iff`: the characters that are white space.
* `Text.trim_append`, `Text.isTrimmed_iff`: what is left of a text.
-/

namespace KeyedFilter.Text

/-- The code points with the property `White_Space`. -/
def whiteSpace : List Nat :=
  [0x9, 0xa, 0xb, 0xc, 0xd, 0x20, 0x85, 0xa0, 0x1680, 0x2000, 0x2001, 0x2002, 0x2003, 0x2004,
    0x2005, 0x2006, 0x2007, 0x2008, 0x2009, 0x200a, 0x2028, 0x2029, 0x202f, 0x205f, 0x3000]

theorem isBlank_iff {c : Char} : isBlank c = true ↔ c.toNat ∈ whiteSpace := by
  simp only [isBlank, whiteSpace, Bool.or_eq_true, Bool.and_eq_true, decide_eq_true_eq, beq_iff_eq,
    List.mem_cons, List.not_mem_nil, or_false]
  omega

theorem isBlank_eq_false_iff {c : Char} : isBlank c = false ↔ c.toNat ∉ whiteSpace := by
  rw [← isBlank_iff, Bool.not_eq_true]

/-- Between white space, `core` is a part of `text` without white space at its ends. -/
def IsTrimmed (text core : List Char) : Prop :=
  ∃ before after, text = before ++ core ++ after ∧
    (∀ c ∈ before, c.toNat ∈ whiteSpace) ∧ (∀ c ∈ after, c.toNat ∈ whiteSpace) ∧
    (∀ c ∈ core.head?, c.toNat ∉ whiteSpace) ∧ ∀ c ∈ core.getLast?, c.toNat ∉ whiteSpace

variable {before core after : List Char}

theorem isTrimmed_self (hfirst : ∀ c ∈ core.head?, c.toNat ∉ whiteSpace)
    (hlast : ∀ c ∈ core.getLast?, c.toNat ∉ whiteSpace) : IsTrimmed core core :=
  ⟨[], [], (List.append_nil core).symm, nofun, nofun, hfirst, hlast⟩

theorem trim_append (hbefore : ∀ c ∈ before, isBlank c = true)
    (hafter : ∀ c ∈ after, isBlank c = true) (hfirst : ∀ c ∈ core.head?, isBlank c = false)
    (hlast : ∀ c ∈ core.getLast?, isBlank c = false) : trim (before ++ core ++ after) = core := by
  -- where a text starts with something else than a blank, nothing is dropped
  have hdrop : ∀ text : List Char, (∀ c ∈ text.head?, isBlank c = false) → text ≠ [] →
      ∀ rest, (text ++ rest).dropWhile isBlank = text ++ rest := by
    intro text hhead hne rest
    cases text with
    | nil => exact absurd rfl hne
    | cons c text => exact List.dropWhile_cons_of_neg (by simp [hhead c rfl])
  have hafter' : ∀ c ∈ after.reverse, isBlank c = true := fun c hc =>
    hafter c (List.mem_reverse.1 hc)
  rw [trim, List.append_assoc, List.dropWhile_append_of_pos hbefore]
  by_cases hcore : core = []
  · subst hcore
    rw [List.nil_append, List.dropWhile_eq_nil_iff.2 hafter]
    rfl
  · have hreverse : ∀ c ∈ core.reverse.head?, isBlank c = false := by
      rwa [List.head?_reverse]
    rw [hdrop core hfirst hcore, List.reverse_append, List.dropWhile_append_of_pos hafter',
      ← List.append_nil core.reverse, hdrop _ hreverse (List.reverse_ne_nil_iff.2 hcore),
      List.append_nil, List.reverse_reverse]

theorem isTrimmed_trim (text : List Char) : IsTrimmed text (trim text) := by
  have htrim : trim text = (text.dropWhile isBlank).rdropWhile isBlank := rfl
  refine ⟨text.takeWhile isBlank, (text.dropWhile isBlank).rtakeWhile isBlank, ?_,
    fun c hc => isBlank_iff.1 (List.mem_takeWhile_imp hc),
    fun c hc => isBlank_iff.1 (List.mem_rtakeWhile_imp hc),
    fun c hc => isBlank_eq_false_iff.1 ?_, fun c hc => isBlank_eq_false_iff.1 ?_⟩
  · rw [htrim, List.append_assoc, List.rdropWhile_append_rtakeWhile, List.takeWhile_append_dropWhile]
  · -- what is dropped from the end leaves the front, and there the blanks are gone already
    obtain ⟨rest, hrest⟩ := List.rdropWhile_prefix isBlank (text.dropWhile isBlank)
    have hhead : (text.dropWhile isBlank).head? = some c := by
      rw [← hrest, List.head?_append, ← htrim, Option.mem_def.1 hc, Option.some_or]
    have hstops := List.head?_dropWhile_not isBlank text
    rw [hhead] at hstops
    exact hstops
  · rw [htrim] at hc
    have hne := List.getLast?_isSome.1 (Option.isSome_of_mem hc)
    have hstops := List.rdropWhile_last_not isBlank (text.dropWhile isBlank) hne
    rw [List.getLast?_eq_some_getLast hne] at hc
    rw [Option.mem_some_iff.1 hc] at hstops
    exact Bool.eq_false_iff.2 hstops

/-- **Trimming finds the part of a text between its white space**, and there is only one. -/
theorem isTrimmed_iff {text : List Char} : IsTrimmed text core ↔ core = trim text := by
  constructor
  · rintro ⟨before, after, rfl, hbefore, hafter, hfirst, hlast⟩
    exact (trim_append (fun c hc => isBlank_iff.2 (hbefore c hc))
      (fun c hc => isBlank_iff.2 (hafter c hc)) (fun c hc => isBlank_eq_false_iff.2 (hfirst c hc))
      fun c hc => isBlank_eq_false_iff.2 (hlast c hc)).symm
  · rintro rfl
    exact isTrimmed_trim text

end KeyedFilter.Text
