import Mathlib.Data.List.Basic
import Mathlib.Data.List.Nodup

/-!
# Stable sorting

A list is stably sorted when its entries, each with the position that it had, stand in the order of
a comparison and, among entries that compare as equal, in the order of their positions. Positions
tell equal entries apart, so nothing can get lost, appear twice or change places unseen.

* `StablySorted.unique`: there is at most one such arrangement.
* `stablySorted_mergeSort`: merge sort finds it, for every total preorder.
* `filter_mergeSort`: what is left of a sorted list is what is left of the list, sorted.
-/

namespace KeyedFilter

open Std

variable {α : Type}

/-- The first entry belongs before the second: it is smaller, or equal and earlier. -/
def Precedes (cmp : α → α → Ordering) (a b : α × ℕ) : Prop :=
  cmp a.1 b.1 = .lt ∨ (cmp a.1 b.1 = .eq ∧ a.2 < b.2)

/-- `sorted` is `l` in the order of `cmp`, with equal entries in the order that they had in `l`. -/
def StablySorted (cmp : α → α → Ordering) (l sorted : List α) : Prop :=
  ∃ placed : List (α × ℕ),
    placed.Perm l.zipIdx ∧ placed.Pairwise (Precedes cmp) ∧ placed.map Prod.fst = sorted

variable {cmp : α → α → Ordering}

theorem StablySorted.perm {l sorted : List α} (h : StablySorted cmp l sorted) : sorted.Perm l := by
  obtain ⟨placed, hperm, -, rfl⟩ := h
  simpa using hperm.map Prod.fst

theorem Precedes.asymm [OrientedCmp cmp] {a b : α × ℕ} (hab : Precedes cmp a b) :
    ¬ Precedes cmp b a := by
  intro hba
  have hswap : cmp b.1 a.1 = (cmp a.1 b.1).swap := OrientedCmp.eq_swap
  rcases hab with hab | ⟨hab, hlt⟩ <;> rcases hba with hba | ⟨hba, hlt'⟩ <;>
    rw [hab, hba] at hswap
  · exact absurd hswap (by decide)
  · exact absurd hswap (by decide)
  · exact absurd hswap (by decide)
  · omega

/-- Two arrangements place the same entries, and no two entries can be exchanged. -/
theorem StablySorted.unique [OrientedCmp cmp] {l sorted sorted' : List α}
    (h : StablySorted cmp l sorted) (h' : StablySorted cmp l sorted') : sorted' = sorted := by
  obtain ⟨placed, hperm, hpair, rfl⟩ := h
  obtain ⟨placed', hperm', hpair', rfl⟩ := h'
  rw [(hperm'.trans hperm.symm).eq_of_pairwise (fun a b _ _ hab hba => absurd hba hab.asymm)
    hpair' hpair]

/-- Merge sort compares by `cmp`, and by position where that leaves a choice. -/
theorem precedes_of_zipIdxLE [OrientedCmp cmp] {a b : α × ℕ}
    (h : List.zipIdxLE (fun a b => cmp a b != .gt) a b) (hne : a.2 ≠ b.2) : Precedes cmp a b := by
  have hswap : cmp b.1 a.1 = (cmp a.1 b.1).swap := OrientedCmp.eq_swap
  rw [List.zipIdxLE, hswap] at h
  cases hcmp : cmp a.1 b.1 with
  | lt => exact .inl hcmp
  | eq =>
    rw [hcmp] at h
    have hle : a.2 ≤ b.2 := by simpa using h
    exact .inr ⟨hcmp, by omega⟩
  | gt =>
    rw [hcmp] at h
    simp at h

theorem nodup_snd_zipIdx (l : List α) : (l.zipIdx.map Prod.snd).Nodup := by
  rw [List.zipIdx_map_snd]
  exact List.nodup_range'

/-- Not being behind another entry is transitive. -/
theorem notBehind_trans [TransCmp cmp] (a b c : α) (hab : cmp a b != .gt) (hbc : cmp b c != .gt) :
    cmp a c != .gt := by
  simp only [bne_iff_ne, ← Ordering.isLE_iff_ne_gt] at hab hbc ⊢
  exact TransCmp.isLE_trans hab hbc

/-- Of two entries, one is not behind the other. -/
theorem notBehind_total [OrientedCmp cmp] (a b : α) : (cmp a b != .gt || cmp b a != .gt) := by
  have hswap : cmp b a = (cmp a b).swap := OrientedCmp.eq_swap
  rw [hswap]
  cases cmp a b <;> rfl

/-- **Merge sort is the stable sort** of every total preorder. -/
theorem stablySorted_mergeSort [TransCmp cmp] (l : List α) :
    StablySorted cmp l (l.mergeSort fun a b => cmp a b != .gt) := by
  refine ⟨l.zipIdx.mergeSort (List.zipIdxLE fun a b => cmp a b != .gt),
    List.mergeSort_perm _ _, ?_, List.mergeSort_zipIdx⟩
  have hle := List.pairwise_mergeSort (List.zipIdxLE_trans (@notBehind_trans _ cmp _))
    (List.zipIdxLE_total notBehind_total) l.zipIdx
  -- no two positions are equal, so what merge sort respects is strict
  have hnodup := ((List.mergeSort_perm l.zipIdx (List.zipIdxLE fun a b => cmp a b != .gt)).map
    Prod.snd).nodup_iff.2 (nodup_snd_zipIdx l)
  have hne := List.pairwise_map.1 hnodup
  exact (hle.and hne).imp fun ⟨h, h'⟩ => precedes_of_zipIdxLE h h'

/-! ### Sorting a part of a list -/

/-- One more entry at the front of a list is sorted in between the entries that it is behind and the
others. -/
theorem mergeSort_cons_eq [TransCmp cmp] (a : α) (l : List α) :
    let sorted := l.mergeSort fun a b => cmp a b != .gt
    let front := sorted.filter fun b => cmp a b == .gt
    let back := sorted.filter fun b => cmp a b != .gt
    sorted = front ++ back ∧
      (a :: l).mergeSort (fun a b => cmp a b != .gt) = front ++ a :: back := by
  intro sorted front back
  obtain ⟨l₁, l₂, hcons, hsorted, hfront⟩ :=
    List.mergeSort_cons notBehind_trans (@notBehind_total _ cmp _) a l
  have hpairwise := List.pairwise_mergeSort notBehind_trans (@notBehind_total _ cmp _) (a :: l)
  rw [hcons, List.pairwise_append, List.pairwise_cons] at hpairwise
  have hback := hpairwise.2.1.1
  have hfront_eq : front = l₁ := by
    simp only [front, sorted, hsorted, List.filter_append]
    rw [List.filter_eq_self.2 (by simpa using hfront),
      List.filter_eq_nil_iff.2 (by simpa using hback), List.append_nil]
  have hback_eq : back = l₂ := by
    simp only [back, sorted, hsorted, List.filter_append]
    rw [List.filter_eq_nil_iff.2 (by simpa using hfront),
      List.filter_eq_self.2 (by simpa using hback), List.nil_append]
  rw [hfront_eq, hback_eq]
  exact ⟨hsorted, hcons⟩

/-- **Leaving entries out goes along with sorting**, however the entries tie. -/
theorem filter_mergeSort [TransCmp cmp] (p : α → Bool) (l : List α) :
    (l.mergeSort fun a b => cmp a b != .gt).filter p =
      (l.filter p).mergeSort fun a b => cmp a b != .gt := by
  induction l with
  | nil => simp
  | cons a l ih =>
    obtain ⟨hsorted, hcons⟩ := @mergeSort_cons_eq _ cmp _ a l
    cases hp : p a with
    | false =>
      -- without the entry, the two parts around it are the others, sorted
      rw [hcons, List.filter_append, List.filter_cons_of_neg (by simp [hp]), ← List.filter_append,
        ← hsorted, ih, List.filter_cons_of_neg (by simp [hp])]
    | true =>
      rw [hcons, List.filter_cons_of_pos hp, (mergeSort_cons_eq a (l.filter p)).2, ← ih,
        List.filter_append, List.filter_cons_of_pos hp]
      simp only [List.filter_filter, Bool.and_comm]

end KeyedFilter
