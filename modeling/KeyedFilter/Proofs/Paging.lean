import Mathlib.Data.List.Basic
import KeyedFilter.Paging

/-!
# Pages cover a result without overlap

In unbounded whole numbers, page `p` of size `limit` is the stretch of a list from index
`(p - 1) * limit` up to index `p * limit`. These stretches tile the list. The window of a page is
computed in words, where the number of entities before the page may not fit; then it is held back at
the greatest word, which no index of a list of at most that length reaches.

* `between`: the entries of a list between two indices.
* `flatMap_between`: the first pages together are the front of the list.
* `existsUnique_page`: every index is on one page.
* `Paging.cut_window`: what the window of a page cuts out of a list.
-/

namespace KeyedFilter

variable {α : Type}

/-! ### Stretches of a list -/

/-- The entries of a list at the indices from `first` on that are below `last`. -/
def between (first last : Nat) (l : List α) : List α :=
  (l.zipIdx.filter fun entry => first ≤ entry.2 ∧ entry.2 < last).map Prod.fst

theorem map_fst_filter_zipIdx_from (first last n : Nat) (l : List α) :
    ((l.zipIdx n).filter fun entry => first ≤ entry.2 ∧ entry.2 < last).map Prod.fst =
      (l.drop (first - n)).take (last - max first n) := by
  induction l generalizing n with
  | nil => simp
  | cons a l ih =>
    rw [List.zipIdx_cons, List.filter_cons]
    -- the stretch begins behind this entry, or it has begun; then it may be over already
    by_cases hfirst : first ≤ n
    · have hmax : max first n = n := by omega
      have hdrop : first - n = 0 := by omega
      have hdrop' : first - (n + 1) = 0 := by omega
      rw [hdrop, hmax]
      by_cases hlast : n < last
      · have htake : last - n = (last - max first (n + 1)) + 1 := by omega
        rw [if_pos (by simp [hfirst, hlast]), List.map_cons, ih, hdrop', htake]
        rfl
      · have htake : last - n = 0 := by omega
        have htake' : last - max first (n + 1) = 0 := by omega
        rw [if_neg (by simp [hlast]), ih, htake, htake', List.take_zero, List.take_zero]
    · have hdrop : first - n = (first - (n + 1)) + 1 := by omega
      have hmax : max first n = max first (n + 1) := by omega
      rw [if_neg (by simp [hfirst]), ih, hdrop, hmax]
      rfl

theorem between_eq (first last : Nat) (l : List α) :
    between first last l = (l.drop first).take (last - first) := by
  rw [between, map_fst_filter_zipIdx_from, Nat.sub_zero, Nat.max_zero]

theorem between_eq_nil {first : Nat} {l : List α} (h : l.length ≤ first) (last : Nat) :
    between first last l = [] := by
  rw [between_eq, List.drop_eq_nil_of_le h, List.take_nil]

/-- The first `n` pages together are the front of the list. -/
theorem flatMap_between (limit n : Nat) (l : List α) :
    (List.range n).flatMap (fun p => between (p * limit) ((p + 1) * limit) l) =
      l.take (n * limit) := by
  induction n with
  | zero => simp
  | succ n ih =>
    have hsize : (n + 1) * limit - n * limit = limit := by
      rw [Nat.succ_mul, Nat.add_sub_cancel_left]
    rw [List.range_succ, List.flatMap_append, ih, List.flatMap_singleton, between_eq, hsize,
      Nat.succ_mul, List.take_add]

/-- Pages that are numbered by words and reach the end of the list are the whole list together. -/
theorem flatMap_numbered {limit n : Nat} {l : List α} (hn : n < UInt64.size)
    (hcover : l.length ≤ n * limit) :
    (List.range n).flatMap (fun i =>
      between (((UInt64.ofNat (i + 1)).toNat - 1) * limit)
        ((UInt64.ofNat (i + 1)).toNat * limit) l) = l := by
  have hpage : ∀ i ∈ List.range n,
      between (((UInt64.ofNat (i + 1)).toNat - 1) * limit)
        ((UInt64.ofNat (i + 1)).toNat * limit) l = between (i * limit) ((i + 1) * limit) l := by
    intro i hi
    have hnumber : (UInt64.ofNat (i + 1)).toNat = i + 1 :=
      UInt64.toNat_ofNat_of_lt' (Nat.lt_of_le_of_lt (List.mem_range.1 hi) hn)
    rw [hnumber, Nat.add_sub_cancel]
  rw [List.flatMap_congr hpage, flatMap_between, List.take_of_length_le hcover]

/-- **Every index is on one page.** -/
theorem existsUnique_page {limit i : Nat} (hlimit : 0 < limit) (hi : i < UInt64.size - 1) :
    ∃! p : UInt64, 1 ≤ p ∧ (p.toNat - 1) * limit ≤ i ∧ i < p.toNat * limit := by
  have hdiv : i / limit ≤ i := Nat.div_le_self i limit
  have hnumber : (UInt64.ofNat (i / limit + 1)).toNat = i / limit + 1 :=
    UInt64.toNat_ofNat_of_lt' (by omega)
  refine ⟨UInt64.ofNat (i / limit + 1), ⟨?_, ?_, ?_⟩, ?_⟩
  · rw [UInt64.le_iff_toNat_le, hnumber]
    exact Nat.le_add_left 1 _
  · rw [hnumber, Nat.add_sub_cancel]
    exact Nat.div_mul_le_self i limit
  · rw [hnumber, Nat.succ_mul]
    exact Nat.lt_div_mul_add hlimit
  · rintro p ⟨hone, hle, hlt⟩
    have hpos : 1 ≤ p.toNat := UInt64.le_iff_toNat_le.1 hone
    have hsucc : p.toNat - 1 + 1 = p.toNat := Nat.sub_add_cancel hpos
    have hquotient : i / limit = p.toNat - 1 :=
      Nat.div_eq_of_lt_le hle (by rw [hsucc]; exact hlt)
    rw [← UInt64.toNat_inj, hnumber, hquotient, hsucc]

/-! ### Windows -/

namespace Paging

variable (paging : Paging) (page perPage : Option UInt64)

theorem limit_pos : 0 < paging.limit perPage := by
  unfold limit least
  omega

theorem limit_lt : paging.limit perPage < UInt64.size := by
  have hleast := paging.minPerPage.toNat_lt_size
  have hgreatest := paging.maxPerPage.toNat_lt_size
  have hone : 1 < UInt64.size := by decide
  unfold limit greatest least
  omega

theorem toNat_limit : (paging.window page perPage).limit.toNat = paging.limit perPage :=
  UInt64.toNat_ofNat_of_lt' (paging.limit_lt perPage)

/-- The number of entities before a page, as long as a word holds it. -/
theorem toNat_offset : (paging.window page perPage).offset.toNat =
    min ((pageNumber page - 1) * paging.limit perPage) (UInt64.size - 1) :=
  UInt64.toNat_ofNat_of_lt' (Nat.lt_of_le_of_lt (Nat.min_le_right _ _) (by decide))

theorem window_zero : paging.window (some 0) perPage = paging.window (some 1) perPage := rfl

theorem window_none : paging.window none perPage = paging.window (some 1) perPage := rfl

theorem pageNumber_some {p : UInt64} (h : 1 ≤ p) : pageNumber (some p) = p.toNat :=
  Nat.max_eq_left (UInt64.le_iff_toNat_le.1 h)

/-- **The window of a page cuts out the stretch of that page**, also where the number of entities
before it is held back at the greatest word. -/
theorem cut_window {p : UInt64} (hp : 1 ≤ p) {l : List α} (hl : l.length < UInt64.size) :
    (paging.window (some p) perPage).cut l =
      between ((p.toNat - 1) * paging.limit perPage) (p.toNat * paging.limit perPage) l := by
  have hpos : 1 ≤ p.toNat := UInt64.le_iff_toNat_le.1 hp
  rw [Window.cut, toNat_limit, toNat_offset, pageNumber_some hp]
  by_cases hword : (p.toNat - 1) * paging.limit perPage ≤ UInt64.size - 1
  · have hsize : p.toNat * paging.limit perPage - (p.toNat - 1) * paging.limit perPage =
        paging.limit perPage := by
      rw [← Nat.sub_mul, Nat.sub_sub_self hpos, Nat.one_mul]
    rw [Nat.min_eq_left hword, between_eq, hsize]
  · -- there are no entities so far behind
    rw [Nat.min_eq_right (by omega), List.drop_eq_nil_of_le (by omega), List.take_nil,
      between_eq_nil (by omega)]

end Paging

end KeyedFilter
