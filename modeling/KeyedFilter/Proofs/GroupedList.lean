import KeyedFilter.Proofs.OrderedMap
import KeyedFilter.Proofs.StableSort

/-!
# Grouped lists

A list is grouped when its entries are brought together by their keys: the keys in the order in
which they first appear, and the entries with a key in the order that they had. Two ways of grouping
lead to the same list: taking the entries out key by key, and sorting them, stably, by the places of
their keys in the list of distinct keys.

* `GroupedBy`: a list and its entries, brought together.
* `GroupedBy.unique`: there is at most one such arrangement.
* `groupedBy_flatMap`, `groupedBy_mergeSort`: the two ways.
-/

namespace KeyedFilter

variable {α : Type}

/-- The entries of `l`, brought together by their keys. -/
structure GroupedBy (key : α → String) (l grouped : List α) : Prop where
  /-- No entry is lost and none is added. -/
  perm : grouped.Perm l
  /-- Between two entries with one key there are only entries with that key. -/
  adjacent : ∀ front a middle b back, grouped = front ++ a :: (middle ++ b :: back) →
    key a = key b → ∀ c ∈ middle, key c = key a
  /-- The keys stand in the order in which they first appear in `l`. -/
  firstAppearance : grouped.Pairwise fun a b =>
    (l.map key).idxOf (key a) ≤ (l.map key).idxOf (key b)
  /-- The entries with a key stand in the order that they have in `l`. -/
  orderKept : ∀ k, grouped.filter (key · == k) = l.filter (key · == k)

variable {key : α → String} {l grouped grouped' : List α}

/-- No entry is lost when those with each key are kept. -/
theorem perm_of_filter_eq (h : ∀ k, grouped.filter (key · == k) = l.filter (key · == k)) :
    grouped.Perm l := by
  classical
  refine List.perm_iff_count.2 fun a => ?_
  have hcount : ∀ l : List α, (l.filter (key · == key a)).count a = l.count a := fun l =>
    List.count_filter (beq_self_eq_true (key a))
  rw [← hcount grouped, h, hcount]

/-- Entries whose keys stand in the order of their first appearance are brought together. -/
theorem GroupedBy.of_firstAppearance
    (hfirst : grouped.Pairwise fun a b => (l.map key).idxOf (key a) ≤ (l.map key).idxOf (key b))
    (hkept : ∀ k, grouped.filter (key · == k) = l.filter (key · == k)) :
    GroupedBy key l grouped := by
  have hperm : grouped.Perm l := perm_of_filter_eq hkept
  refine ⟨hperm, ?_, hfirst, hkept⟩
  rintro front a middle b back rfl heq c hc
  -- the key in the middle appears first where the one around it does
  simp only [List.pairwise_append, List.pairwise_cons, List.forall_mem_append,
    List.forall_mem_cons] at hfirst
  have hac := hfirst.2.1.1.1 c hc
  have hcb := (hfirst.2.1.2.2.2 c hc).1
  have hmem : c ∈ l := hperm.subset (by simp [hc])
  rw [← List.idxOf_inj (List.mem_map_of_mem hmem)]
  rw [← heq] at hcb
  omega

theorem head_le_of_pairwise {rank : String → ℕ} {a b : α} {rest : List α}
    (h : (a :: rest).Pairwise fun a b => rank (key a) ≤ rank (key b)) (hb : b ∈ a :: rest) :
    rank (key a) ≤ rank (key b) := by
  rcases List.mem_cons.1 hb with rfl | hb
  · exact Nat.le_refl _
  · exact (List.pairwise_cons.1 h).1 b hb

/-- A list in the order of its keys is known from the entries with each key. -/
theorem eq_of_filter_eq (rank : String → ℕ)
    (h : grouped.Pairwise fun a b => rank (key a) ≤ rank (key b))
    (h' : grouped'.Pairwise fun a b => rank (key a) ≤ rank (key b))
    (hrank : ∀ a ∈ grouped, ∀ b ∈ grouped', rank (key a) = rank (key b) → key a = key b)
    (hfilter : ∀ k, grouped.filter (key · == k) = grouped'.filter (key · == k)) :
    grouped = grouped' := by
  induction grouped generalizing grouped' with
  | nil =>
    cases grouped' with
    | nil => rfl
    | cons b rest' => simpa using hfilter (key b)
  | cons a rest ih =>
    cases grouped' with
    | nil => simpa using hfilter (key a)
    | cons b rest' =>
      -- each of the two heads stands somewhere in the other list, so neither key is behind
      have hperm := perm_of_filter_eq hfilter
      have hab : rank (key a) ≤ rank (key b) :=
        head_le_of_pairwise h (hperm.mem_iff.2 List.mem_cons_self)
      have hba : rank (key b) ≤ rank (key a) :=
        head_le_of_pairwise h' (hperm.mem_iff.1 List.mem_cons_self)
      have hkey : key a = key b :=
        hrank a List.mem_cons_self b List.mem_cons_self (Nat.le_antisymm hab hba)
      rw [List.pairwise_cons] at h h'
      have hhead := hfilter (key a)
      rw [List.filter_cons_of_pos (by simp), List.filter_cons_of_pos (by simp [hkey])] at hhead
      obtain ⟨rfl, -⟩ := List.cons.inj hhead
      congr 1
      refine ih h.2 h'.2 (fun c hc d hd => hrank c (List.mem_cons_of_mem _ hc) d
        (List.mem_cons_of_mem _ hd)) fun k => ?_
      have hk := hfilter k
      rw [List.filter_cons, List.filter_cons] at hk
      split_ifs at hk
      · exact (List.cons.inj hk).2
      · exact hk

/-- **There is one way to bring a list together by keys.** -/
theorem GroupedBy.unique (h : GroupedBy key l grouped) (h' : GroupedBy key l grouped') :
    grouped = grouped' := by
  refine eq_of_filter_eq (fun k => (l.map key).idxOf k) h.firstAppearance h'.firstAppearance
    (fun a ha b _ heq => ?_) fun k => (h.orderKept k).trans (h'.orderKept k).symm
  exact (List.idxOf_inj (List.mem_map_of_mem (h.perm.subset ha))).1 heq

theorem flatMap_ite_eq {keys : List String} (hkeys : keys.Nodup) (k : String) (entries : List α) :
    (keys.flatMap fun j => if j = k then entries else []) = if k ∈ keys then entries else [] := by
  induction keys with
  | nil => rfl
  | cons j keys ih =>
    rw [List.nodup_cons] at hkeys
    rw [List.flatMap_cons, ih hkeys.2]
    by_cases hj : j = k
    · subst hj
      simp [hkeys.1]
    · simp [hj, Ne.symm hj]

/-- Of what is taken out key by key, the entries with one key are those of the list. -/
theorem filter_flatMap_filter {keys : List String} (hkeys : keys.Nodup) {l : List α}
    (hmem : ∀ a ∈ l, key a ∈ keys) (k : String) :
    (keys.flatMap fun j => l.filter (key · == j)).filter (key · == k) =
      l.filter (key · == k) := by
  have hone : ∀ j, (l.filter (key · == j)).filter (key · == k) =
      if j = k then l.filter (key · == k) else [] := by
    intro j
    rw [List.filter_filter]
    split_ifs with hj
    · subst hj
      simp
    · refine List.filter_eq_nil_iff.2 fun a _ hboth => hj ?_
      simp only [Bool.and_eq_true, beq_iff_eq] at hboth
      exact hboth.2.symm.trans hboth.1
  rw [List.filter_flatMap]
  simp only [hone]
  rw [flatMap_ite_eq hkeys]
  split_ifs with hk
  · rfl
  · refine (List.filter_eq_nil_iff.2 fun a ha heq => hk ?_).symm
    rw [← beq_iff_eq.1 heq]
    exact hmem a ha

/-- Taking the entries out key by key brings them together. -/
theorem groupedBy_flatMap (key : α → String) (l : List α) :
    GroupedBy key l ((l.map key).eraseDups.flatMap fun k => l.filter (key · == k)) := by
  have hmem : ∀ a ∈ l, key a ∈ (l.map key).eraseDups := fun a ha =>
    List.mem_eraseDups.2 (List.mem_map_of_mem ha)
  refine .of_firstAppearance ?_ (filter_flatMap_filter (OrderedMap.nodup_eraseDups _) hmem)
  refine List.pairwise_flatMap.2 ⟨fun k _ => ?_, ?_⟩
  · refine List.pairwise_filter.2 (List.pairwise_of_forall fun a b ha hb => ?_)
    exact Nat.le_of_eq (by rw [beq_iff_eq.1 ha, beq_iff_eq.1 hb])
  · refine (OrderedMap.pairwise_idxOf_eraseDups _).imp fun hlt a ha b hb => ?_
    rw [beq_iff_eq.1 (List.mem_filter.1 ha).2, beq_iff_eq.1 (List.mem_filter.1 hb).2]
    exact Nat.le_of_lt hlt

/-- The order of two entries by the places of their keys among the distinct keys, which stand in the
order in which they are first seen. -/
def compareFirst (key : α → String) (l : List α) (a b : α) : Ordering :=
  compare ((l.map key).eraseDups.idxOf (key a)) ((l.map key).eraseDups.idxOf (key b))

instance (key : α → String) (l : List α) : Std.TransCmp (compareFirst key l) :=
  inferInstanceAs (Std.TransCmp (compareOn fun a => (l.map key).eraseDups.idxOf (key a)))

/-- So does sorting them by the places of their keys among the distinct ones. -/
theorem groupedBy_mergeSort (key : α → String) (l : List α) :
    GroupedBy key l (l.mergeSort fun a b => compareFirst key l a b != .gt) := by
  have hle : ∀ a b, (compareFirst key l a b != .gt) = true ↔
      (l.map key).eraseDups.idxOf (key a) ≤ (l.map key).eraseDups.idxOf (key b) := by
    intro a b
    rw [compareFirst, bne_iff_ne, Ne, Nat.compare_eq_gt, Nat.not_lt]
  refine .of_firstAppearance ?_ fun k => ?_
  · refine (List.pairwise_mergeSort notBehind_trans notBehind_total l).imp_of_mem ?_
    intro a b ha hb h
    exact OrderedMap.idxOf_le_of_idxOf_eraseDups_le (List.mem_map_of_mem (List.mem_mergeSort.1 ha))
      (List.mem_map_of_mem (List.mem_mergeSort.1 hb)) ((hle a b).1 h)
  · rw [filter_mergeSort]
    refine List.mergeSort_of_pairwise (List.pairwise_filter.2 (List.pairwise_of_forall ?_))
    intro a b ha hb
    exact (hle a b).2 (Nat.le_of_eq (by rw [beq_iff_eq.1 ha, beq_iff_eq.1 hb]))

end KeyedFilter
