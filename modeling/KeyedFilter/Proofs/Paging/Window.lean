import Mathlib.Algebra.Group.Nat.Defs
import Mathlib.Tactic.SplitIfs
import KeyedFilter.Proofs.Paging

/-!
# Windows computed in words

A window is computed from three settings and a request, all of them words. Two steps of this would
fail on some words: a value cannot be brought between bounds that are the wrong way round, and a
number cannot be taken from a smaller one. A third one, the product, may have no word. Here the
steps are taken one by one in words: with the bounds mended none of them fails, whatever the
settings and the request, and the window is the one of unbounded whole numbers. It follows that the
windows of all pages lie side by side, although the offsets of all pages from some page on are one
and the same word.

* `Paging.windowInWords?`: the steps in words.
* `Paging.windowInWords?_eq`: none of them fails.
* `Paging.holds_page_iff`: which entities are in the window of a page.
* `Paging.windows_valid_and_disjoint`: what holds of the windows.
-/

namespace KeyedFilter

/-! ### Steps that may fail -/

/-- A word brought between two bounds, unless these are the wrong way round. -/
def clamp? (low high n : UInt64) : Option UInt64 :=
  if low ≤ high then some (if n < low then low else if high < n then high else n) else none

/-- The difference of two words, unless it is below zero. -/
def difference? (a b : UInt64) : Option UInt64 :=
  if b ≤ a then some (a - b) else none

/-- The product of two words, or the greatest word where none holds the product. -/
def heldProduct (a b : UInt64) : UInt64 :=
  if a.toNat * b.toNat < UInt64.size then a * b else UInt64.ofNat (UInt64.size - 1)

variable {low high n a b c : UInt64}

theorem toNat_max (a b : UInt64) : (max a b).toNat = max a.toNat b.toNat := by
  show (if a ≤ b then b else a).toNat = _
  split_ifs with h <;> rw [UInt64.le_iff_toNat_le] at h <;> omega

theorem clamp?_eq_some_iff :
    clamp? low high n = some c ↔
      low ≤ high ∧ c.toNat = max low.toNat (min n.toNat high.toNat) := by
  unfold clamp?
  simp only [← UInt64.toNat_inj, UInt64.le_iff_toNat_le, UInt64.lt_iff_toNat_lt,
    Option.ite_none_right_eq_some, Option.some.injEq]
  refine and_congr_right fun hbounds => ?_
  split_ifs <;> omega

theorem difference?_eq_some_iff :
    difference? a b = some c ↔ b ≤ a ∧ c.toNat = a.toNat - b.toNat := by
  unfold difference?
  simp only [Option.ite_none_right_eq_some, Option.some.injEq, ← UInt64.toNat_inj]
  refine and_congr_right fun h => ?_
  rw [UInt64.toNat_sub_of_le _ _ h, eq_comm]

theorem toNat_heldProduct (a b : UInt64) :
    (heldProduct a b).toNat = min (a.toNat * b.toNat) (UInt64.size - 1) := by
  unfold heldProduct
  split_ifs with h
  · rw [UInt64.toNat_mul, Nat.mod_eq_of_lt h]
    omega
  · rw [UInt64.toNat_ofNat_of_lt' (by decide)]
    omega

/-! ### Windows -/

namespace Paging

variable (paging : Paging) (page perPage : Option UInt64)

/-- The page size that is wanted: the one asked for, else the usual one. -/
def wanted : UInt64 := perPage.getD paging.perPage

/-- The window of a page, step by step in words. -/
def windowInWords? : Option Window := do
  let least := max paging.minPerPage 1
  let greatest := max paging.maxPerPage least
  let limit ← clamp? least greatest (paging.wanted perPage)
  let pagesBefore ← difference? (max (page.getD 1) 1) 1
  return ⟨heldProduct pagesBefore limit, limit⟩

/-- **No step of a window fails**: the bounds are the right way round, and no page comes before the
first. -/
theorem windowInWords?_eq :
    paging.windowInWords? page perPage = some (paging.window page perPage) := by
  have hone : (1 : UInt64).toNat = 1 := rfl
  have hbounds : max paging.minPerPage 1 ≤ max paging.maxPerPage (max paging.minPerPage 1) := by
    simp only [UInt64.le_iff_toNat_le, toNat_max]
    omega
  have hfirst : 1 ≤ max (page.getD 1) 1 := by
    simp only [UInt64.le_iff_toNat_le, toNat_max]
    omega
  have hlimit : clamp? (max paging.minPerPage 1)
      (max paging.maxPerPage (max paging.minPerPage 1)) (paging.wanted perPage) =
        some (paging.window page perPage).limit := by
    rw [clamp?_eq_some_iff, toNat_limit]
    refine ⟨hbounds, ?_⟩
    simp only [limit, greatest, least, wanted, toNat_max, hone]
  have hbefore : difference? (max (page.getD 1) 1) 1 = some (max (page.getD 1) 1 - 1) :=
    difference?_eq_some_iff.2 ⟨hfirst, UInt64.toNat_sub_of_le _ _ hfirst⟩
  have hoffset : heldProduct (max (page.getD 1) 1 - 1) (paging.window page perPage).limit =
      (paging.window page perPage).offset := by
    rw [← UInt64.toNat_inj, toNat_heldProduct, toNat_offset, toNat_limit,
      UInt64.toNat_sub_of_le _ _ hfirst, toNat_max, hone]
    rfl
  simp only [windowInWords?, hlimit, hbefore, Option.bind_eq_bind, Option.bind_some, hoffset]
  rfl

theorem toNat_limit_eq : (paging.window page perPage).limit.toNat =
    max (max paging.minPerPage.toNat 1) (min (paging.wanted perPage).toNat
      (max paging.maxPerPage.toNat (max paging.minPerPage.toNat 1))) :=
  paging.toNat_limit page perPage

variable {paging perPage} in
/-- A window reaches from an offset that a word holds, and from no other, up to the next one. An
offset that is held back lies behind all indices that a word holds. -/
theorem holds_page_iff {p : UInt64} (hp : 1 ≤ p) {i : ℕ} (hi : i < UInt64.size - 1) :
    ((paging.window (some p) perPage).offset.toNat ≤ i ∧
      i < (paging.window (some p) perPage).offset.toNat +
        (paging.window (some p) perPage).limit.toNat) ↔
      (p.toNat - 1) * paging.limit perPage ≤ i ∧ i < p.toNat * paging.limit perPage := by
  have hpos : 1 ≤ p.toNat := UInt64.le_iff_toNat_le.1 hp
  have hnext : p.toNat * paging.limit perPage =
      (p.toNat - 1) * paging.limit perPage + paging.limit perPage := by
    rw [← Nat.succ_mul, Nat.succ_eq_add_one, Nat.sub_add_cancel hpos]
  rw [toNat_limit, toNat_offset, pageNumber_some hp, hnext]
  generalize (p.toNat - 1) * paging.limit perPage = exact
  omega

/-- **There is a window for whatever settings and request, and the windows of one page size lie side
by side.** No step on the way to a window fails. Its limit is not zero, it lies within the mended
bounds, it is the wanted size if that does too, and a larger wanted size gives no smaller limit.
Every index below the greatest word lies in the window of exactly one page. -/
theorem windows_valid_and_disjoint (paging : Paging) :
    (∀ page perPage,
      paging.windowInWords? page perPage = some (paging.window page perPage) ∧
      1 ≤ (paging.window page perPage).limit ∧
      max paging.minPerPage 1 ≤ (paging.window page perPage).limit ∧
      (paging.window page perPage).limit ≤ max (max paging.maxPerPage paging.minPerPage) 1 ∧
      (max paging.minPerPage 1 ≤ paging.wanted perPage →
        paging.wanted perPage ≤ max (max paging.maxPerPage paging.minPerPage) 1 →
        (paging.window page perPage).limit = paging.wanted perPage)) ∧
    (∀ (other : Paging) (page page' perPage perPage' : Option UInt64),
      other.minPerPage = paging.minPerPage → other.maxPerPage = paging.maxPerPage →
      paging.wanted perPage ≤ other.wanted perPage' →
      (paging.window page perPage).limit ≤ (other.window page' perPage').limit) ∧
    ∀ (perPage : Option UInt64) (i : ℕ), i < 2 ^ 64 - 1 →
      ∃! p : UInt64, 1 ≤ p ∧ (paging.window (some p) perPage).offset.toNat ≤ i ∧
        i < (paging.window (some p) perPage).offset.toNat +
          (paging.window (some p) perPage).limit.toNat := by
  have hone : (1 : UInt64).toNat = 1 := rfl
  refine ⟨fun page perPage => ?_, ?_, fun perPage i hi => ?_⟩
  · have hlimit := paging.toNat_limit_eq page perPage
    refine ⟨paging.windowInWords?_eq page perPage, ?_, ?_, ?_, fun hleast hgreatest => ?_⟩
    · rw [UInt64.le_iff_toNat_le]
      omega
    · rw [UInt64.le_iff_toNat_le, toNat_max]
      omega
    · rw [UInt64.le_iff_toNat_le, toNat_max, toNat_max]
      omega
    · rw [UInt64.le_iff_toNat_le, toNat_max] at hleast
      rw [UInt64.le_iff_toNat_le, toNat_max, toNat_max] at hgreatest
      rw [← UInt64.toNat_inj]
      omega
  · intro other page page' perPage perPage' hmin hmax hwanted
    have hlimit := paging.toNat_limit_eq page perPage
    have hlimit' := other.toNat_limit_eq page' perPage'
    rw [UInt64.le_iff_toNat_le] at hwanted ⊢
    rw [hmin, hmax] at hlimit'
    omega
  · obtain ⟨p, ⟨hp, hpage⟩, hunique⟩ := existsUnique_page (paging.limit_pos perPage) hi
    exact ⟨p, ⟨hp, (holds_page_iff hp hi).2 hpage⟩,
      fun q ⟨hq, hwindow⟩ => hunique q ⟨hq, (holds_page_iff hq hi).1 hwindow⟩⟩

/-- With the bounds crossed, the lower one is what counts. No page of fifty has an offset beyond the
words as long as it reaches back to an index below the greatest one. -/
theorem windows_valid_and_disjoint_crossed :
    let paging : Paging := ⟨20, 50, 5⟩
    (max paging.minPerPage 1 ≤ paging.wanted (some 50) ∧
      paging.wanted (some 50) ≤ max (max paging.maxPerPage paging.minPerPage) 1 ∧
      (paging.window (some 3) (some 50)).limit = paging.wanted (some 50)) ∧
    (paging.wanted (some 7) ≤ paging.wanted none ∧
      (paging.window (some 0) (some 7)).limit ≤ (paging.window none none).limit) ∧
    (18446744073709551614 < 2 ^ 64 - 1 ∧
      ∃! p : UInt64, 1 ≤ p ∧ (paging.window (some p) none).offset.toNat ≤ 18446744073709551614 ∧
        18446744073709551614 < (paging.window (some p) none).offset.toNat +
          (paging.window (some p) none).limit.toNat) := by
  intro paging
  obtain ⟨hlimit, hmono, hpages⟩ := windows_valid_and_disjoint paging
  refine ⟨⟨by decide, by decide, ?_⟩, ⟨by decide, ?_⟩, by decide, ?_⟩
  · exact (hlimit (some 3) (some 50)).2.2.2.2 (by decide) (by decide)
  · exact hmono paging (some 0) none (some 7) none rfl rfl (by decide)
  · exact hpages none 18446744073709551614 (by decide)

end Paging

end KeyedFilter
