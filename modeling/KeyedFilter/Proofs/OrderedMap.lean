import Mathlib.Data.List.Induction
import Mathlib.Data.List.Nodup
import KeyedFilter.OrderedMap

/-!
# Ordered maps by their entries

What is under a key is what stands beside it among the entries. So maps with the same entries, in
whatever order, are the same to everything that only looks keys up.
-/

namespace KeyedFilter.OrderedMap

variable {α β : Type}

theorem lookup_eq_some_iff {entries : List (String × α)} (h : (entries.map Prod.fst).Nodup)
    {key : String} {value : α} : entries.lookup key = some value ↔ (key, value) ∈ entries := by
  induction entries with
  | nil => simp
  | cons entry rest ih =>
    obtain ⟨k, v⟩ := entry
    rw [List.map_cons, List.nodup_cons] at h
    rw [lookup_cons_entry, List.mem_cons, Prod.mk.injEq]
    split_ifs with hk
    · subst hk
      have hnot : (key, value) ∉ rest := fun hmem => h.1 (List.mem_map.2 ⟨_, hmem, rfl⟩)
      simp [hnot, eq_comm]
    · rw [ih h.2]
      simp [hk]

theorem get?_eq_some_iff (m : OrderedMap α) {key : String} {value : α} :
    m.get? key = some value ↔ (key, value) ∈ m.entries :=
  lookup_eq_some_iff m.nodup

theorem mem_keys_iff (m : OrderedMap α) {key : String} :
    key ∈ m.keys ↔ ∃ value, m.get? key = some value := by
  simp only [keys, List.mem_map, Prod.exists, exists_and_right, exists_eq_right, get?_eq_some_iff]

theorem entries_nodup (m : OrderedMap α) : m.entries.Nodup := m.nodup.of_map

/-- Entries of a map are known from their keys. -/
theorem eq_of_map_fst_eq (m : OrderedMap α) {l l' : List (String × α)}
    (hkeys : l.map Prod.fst = l'.map Prod.fst) (h : ∀ entry ∈ l, m.get? entry.1 = some entry.2)
    (h' : ∀ entry ∈ l', m.get? entry.1 = some entry.2) : l = l' := by
  have hlookup : ∀ l : List (String × α), (∀ entry ∈ l, m.get? entry.1 = some entry.2) →
      l.map some = (l.map Prod.fst).map fun key => (m.get? key).map fun value => (key, value) := by
    intro l h
    rw [List.map_map]
    exact List.map_congr_left fun entry hentry => by simp [h entry hentry]
  apply List.map_injective_iff.2 fun _ _ => Option.some.inj
  rw [hlookup l h, hkeys, ← hlookup l' h']

theorem get?_eq_of_perm {m m' : OrderedMap α} (h : m.entries.Perm m'.entries) (key : String) :
    m.get? key = m'.get? key := by
  apply Option.ext
  intro value
  rw [get?_eq_some_iff, get?_eq_some_iff, h.mem_iff]

theorem eq_of_entries_eq {m m' : OrderedMap α} (h : m.entries = m'.entries) : m = m' := by
  cases m
  cases m'
  cases h
  rfl

theorem entries_insert_of_notMem {m : OrderedMap α} {key : String} (h : key ∉ m.keys) (value : α) :
    (m.insert key value).entries = m.entries ++ [(key, value)] := by
  have hentries : key ∉ m.entries.map Prod.fst := h
  rw [insert, dif_neg hentries]

/-! ### Distinct keys -/

theorem eraseDups_concat (keys : List String) (key : String) :
    (keys ++ [key]).eraseDups = if key ∈ keys then keys.eraseDups else keys.eraseDups ++ [key] := by
  rw [List.eraseDups_append]
  by_cases hkey : key ∈ keys
  · simp [List.removeAll, hkey]
  · simp [List.removeAll, hkey, List.eraseDups_cons]

theorem eraseDups_eq_self {keys : List String} (h : keys.Nodup) : keys.eraseDups = keys := by
  induction keys using List.reverseRecOn with
  | nil => rfl
  | append_singleton keys key ih =>
    rw [← List.concat_eq_append, List.nodup_concat] at h
    rw [eraseDups_concat, if_neg h.1, ih h.2]

/-- The distinct keys of a list stand in the order of their first appearance. -/
theorem pairwise_idxOf_eraseDups (keys : List String) :
    keys.eraseDups.Pairwise fun a b => keys.idxOf a < keys.idxOf b := by
  induction keys using List.reverseRecOn with
  | nil => exact .nil
  | append_singleton keys key ih =>
    -- one more key at the end changes no earlier position
    have hbefore : ∀ k ∈ keys.eraseDups, (keys ++ [key]).idxOf k = keys.idxOf k := fun k hk =>
      List.idxOf_append_of_mem (List.mem_eraseDups.1 hk)
    have hkeys : keys.eraseDups.Pairwise fun a b =>
        (keys ++ [key]).idxOf a < (keys ++ [key]).idxOf b := by
      refine ih.imp_of_mem fun {a b} ha hb hlt => ?_
      rwa [hbefore a ha, hbefore b hb]
    rw [eraseDups_concat]
    split_ifs with hkey
    · exact hkeys
    · refine List.pairwise_append.2 ⟨hkeys, List.pairwise_singleton _ _, fun a ha b hb => ?_⟩
      obtain rfl := List.mem_singleton.1 hb
      rw [hbefore a ha, List.idxOf_append_of_notMem hkey]
      have hlt := List.idxOf_lt_length_of_mem (List.mem_eraseDups.1 ha)
      omega

/-- So a key that stands before another one among the distinct keys appears first before it. -/
theorem idxOf_le_of_idxOf_eraseDups_le {keys : List String} {a b : String} (ha : a ∈ keys)
    (hb : b ∈ keys) (h : keys.eraseDups.idxOf a ≤ keys.eraseDups.idxOf b) :
    keys.idxOf a ≤ keys.idxOf b := by
  have hia := List.idxOf_lt_length_of_mem (List.mem_eraseDups.2 ha)
  have hib := List.idxOf_lt_length_of_mem (List.mem_eraseDups.2 hb)
  rcases Nat.eq_or_lt_of_le h with heq | hlt
  · obtain rfl := (List.idxOf_inj (List.mem_eraseDups.2 ha)).1 heq
    exact Nat.le_refl _
  · have hfirst := List.pairwise_iff_getElem.1 (pairwise_idxOf_eraseDups keys) _ _ hia hib hlt
    rw [List.getElem_idxOf, List.getElem_idxOf] at hfirst
    exact Nat.le_of_lt hfirst

theorem nodup_eraseDups (keys : List String) : keys.eraseDups.Nodup :=
  (pairwise_idxOf_eraseDups keys).imp fun hlt heq => absurd hlt (by rw [heq]; exact Nat.lt_irrefl _)

/-! ### Other values -/

/-- The map with each value replaced by another one. -/
def mapValues (f : α → β) (m : OrderedMap α) : OrderedMap β :=
  ⟨m.entries.map fun entry => (entry.1, f entry.2), by
    simpa [Function.comp_def] using m.nodup⟩

@[simp] theorem keys_mapValues (f : α → β) (m : OrderedMap α) :
    (m.mapValues f).keys = m.keys := by
  simp [mapValues, keys]

@[simp] theorem get?_mapValues (f : α → β) (m : OrderedMap α) (key : String) :
    (m.mapValues f).get? key = (m.get? key).map f := by
  obtain ⟨entries, hnodup⟩ := m
  simp only [mapValues, get?]
  clear hnodup
  induction entries with
  | nil => rfl
  | cons entry rest ih =>
    rw [List.map_cons, lookup_cons_entry, ih, lookup_cons_entry]
    split_ifs <;> rfl

/-- Replacing the values goes along with inserting one. -/
theorem mapValues_insert (f : α → β) (m : OrderedMap α) (key : String) (value : α) :
    (m.insert key value).mapValues f = (m.mapValues f).insert key (f value) := by
  apply eq_of_entries_eq
  have hkeys : key ∈ (m.mapValues f).entries.map Prod.fst ↔ key ∈ m.entries.map Prod.fst := by
    rw [← keys, keys_mapValues, keys]
  unfold insert
  by_cases hkey : key ∈ m.entries.map Prod.fst
  · rw [dif_pos hkey, dif_pos (hkeys.2 hkey)]
    simp only [mapValues, replaceEntry, List.map_map]
    apply List.map_congr_left
    intro entry _
    simp only [Function.comp_apply]
    split_ifs <;> rfl
  · rw [dif_neg hkey, dif_neg (mt hkeys.1 hkey)]
    simp [mapValues]

theorem mapValues_eq_self_iff {f : α → α} {m : OrderedMap α} :
    m.mapValues f = m ↔ ∀ entry ∈ m.entries, f entry.2 = entry.2 := by
  have hentries : m.mapValues f = m ↔ (m.mapValues f).entries = m.entries :=
    ⟨congrArg entries, eq_of_entries_eq⟩
  rw [hentries, mapValues]
  conv_lhs => rhs; rw [← List.map_id m.entries]
  rw [List.map_inj_left]
  simp [Prod.ext_iff]

end KeyedFilter.OrderedMap
