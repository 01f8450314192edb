import Mathlib.Data.Finset.Card
import KeyedFilter.Proofs.OrderedMap
import KeyedFilter.Proofs.Traversal

/-!
# Ordered maps by their history

A map is made by a series of operations: values are put under keys one by one, and now and then the
map is given up for one that is collected from a list. What it holds in the end is known from the
insertions since then, whatever was in between: the keys in the order in which each was first
inserted, and under each the value that was inserted last. This goes for the filters of a request as
well as for registered filters, which are only ever put in one by one.

* `putEntry`: an insertion in one pass over a plain list of entries.
* `Operation`, `run`, `insertions`: a series of operations, and the insertions that count.
* `keys_ofList`, `get?_ofList_eq_some_iff`: keys and values after a series of insertions.
* `run_describes_insertions`: keys, values and size after any series of operations.
-/

namespace KeyedFilter.OrderedMap

variable {α : Type} {key : String} {value : α} {entries : List (String × α)}

/-! ### One pass -/

/-- A value is put under a key in one pass: the first entry with the key takes it, or a new entry
behind the last one. -/
def putEntry (key : String) (value : α) : List (String × α) → List (String × α)
  | [] => [(key, value)]
  | entry :: rest =>
    if entry.1 = key then (entry.1, value) :: rest else entry :: putEntry key value rest

theorem putEntry_of_notMem (h : key ∉ entries.map Prod.fst) (value : α) :
    putEntry key value entries = entries ++ [(key, value)] := by
  induction entries with
  | nil => rfl
  | cons entry rest ih =>
    rw [List.map_cons, List.mem_cons, not_or] at h
    rw [putEntry, if_neg (Ne.symm h.1), ih h.2, List.cons_append]

theorem replaceEntry_of_notMem (h : key ∉ entries.map Prod.fst) (value : α) :
    replaceEntry key value entries = entries := by
  unfold replaceEntry
  refine (List.map_congr_left fun entry hentry => if_neg ?_).trans (List.map_id entries)
  rintro rfl
  exact h (List.mem_map_of_mem hentry)

/-- Behind the first entry with a key there is no second one. -/
theorem putEntry_of_mem (hnodup : (entries.map Prod.fst).Nodup) (h : key ∈ entries.map Prod.fst)
    (value : α) : putEntry key value entries = replaceEntry key value entries := by
  induction entries with
  | nil => cases h
  | cons entry rest ih =>
    rw [List.map_cons, List.nodup_cons] at hnodup
    have hcons : replaceEntry key value (entry :: rest) =
        (if entry.1 = key then (key, value) else entry) :: replaceEntry key value rest := rfl
    rw [putEntry, hcons]
    by_cases hkey : entry.1 = key
    · have hrest : key ∉ rest.map Prod.fst := hkey ▸ hnodup.1
      rw [if_pos hkey, if_pos hkey, replaceEntry_of_notMem hrest, hkey]
    · have hrest : key ∈ rest.map Prod.fst := by
        rw [List.map_cons, List.mem_cons] at h
        exact h.resolve_left (Ne.symm hkey)
      rw [if_neg hkey, if_neg hkey, ih hnodup.2 hrest]

theorem entries_insert (m : OrderedMap α) (key : String) (value : α) :
    (m.insert key value).entries = putEntry key value m.entries := by
  by_cases h : key ∈ m.entries.map Prod.fst
  · rw [insert, dif_pos h, putEntry_of_mem m.nodup h]
  · rw [insert, dif_neg h, putEntry_of_notMem h]

/-! ### Insertions one by one -/

theorem ofList_nil : ofList ([] : List (String × α)) = empty := rfl

theorem ofList_append (front back : List (String × α)) :
    ofList (front ++ back) = back.foldl (fun m entry => m.insert entry.1 entry.2) (ofList front) :=
  List.foldl_append

theorem ofList_concat (entries : List (String × α)) (key : String) (value : α) :
    ofList (entries ++ [(key, value)]) = (ofList entries).insert key value :=
  ofList_append entries [(key, value)]

theorem entries_ofList (entries : List (String × α)) :
    (ofList entries).entries =
      entries.foldl (fun plain entry => putEntry entry.1 entry.2 plain) [] := by
  induction entries using List.reverseRecOn with
  | nil => rfl
  | append_singleton entries entry ih =>
    rw [ofList_concat, entries_insert, ih, List.foldl_append]
    rfl

/-- The keys are those that were inserted, each at its first place. -/
theorem keys_ofList (entries : List (String × α)) :
    (ofList entries).keys = (entries.map Prod.fst).eraseDups := by
  induction entries using List.reverseRecOn with
  | nil => rfl
  | append_singleton entries entry ih =>
    rw [ofList_concat, keys_insert, ih, List.map_append, List.map_singleton, eraseDups_concat]
    simp only [List.mem_eraseDups]

theorem mem_keys_ofList_iff : key ∈ (ofList entries).keys ↔ key ∈ entries.map Prod.fst := by
  rw [keys_ofList, List.mem_eraseDups]

/-- The value under a key is the last one that was inserted under it. -/
theorem get?_ofList_eq_some_iff :
    (ofList entries).get? key = some value ↔
      ∃ before after, entries = before ++ (key, value) :: after ∧ key ∉ after.map Prod.fst := by
  induction entries using List.reverseRecOn with
  | nil => simp [ofList_nil, get?, empty]
  | append_singleton entries entry ih =>
    obtain ⟨key', value'⟩ := entry
    simp only [ofList_concat, get?_insert, concat_eq_append_cons_iff]
    by_cases hkey : key = key'
    · -- the insertion at the end is the one that counts
      subst hkey
      rw [if_pos rfl, Option.some.injEq]
      constructor
      · rintro rfl
        exact ⟨entries, [], .inl ⟨rfl, rfl, rfl⟩, List.not_mem_nil⟩
      · rintro ⟨before, after, ⟨-, hlast, -⟩ | ⟨front, rfl, -⟩, hafter⟩
        · exact (Prod.mk.inj hlast).2
        · simp at hafter
    · rw [if_neg hkey, ih]
      constructor
      · rintro ⟨before, after, rfl, hafter⟩
        refine ⟨before, after ++ [(key', value')], .inr ⟨after, rfl, rfl⟩, ?_⟩
        simpa [hkey] using hafter
      · rintro ⟨before, after, ⟨-, hlast, -⟩ | ⟨front, rfl, rfl⟩, hafter⟩
        · exact absurd (Prod.mk.inj hlast).1.symm hkey
        · refine ⟨before, front, rfl, fun hmem => hafter ?_⟩
          rw [List.map_append]
          exact List.mem_append_left _ hmem

theorem get?_ofList_eq_none_iff :
    (ofList entries).get? key = none ↔ key ∉ entries.map Prod.fst := by
  rw [← mem_keys_ofList_iff, mem_keys_iff, Option.eq_none_iff_forall_ne_some, not_exists]

theorem size_ofList (entries : List (String × α)) :
    (ofList entries).size = (entries.map Prod.fst).toFinset.card := by
  have hkeys : (ofList entries).keys.toFinset = (entries.map Prod.fst).toFinset :=
    Finset.ext fun key => by rw [List.mem_toFinset, List.mem_toFinset, mem_keys_ofList_iff]
  have hnodup : (ofList entries).keys.Nodup := (ofList entries).nodup
  rw [← hkeys, List.toFinset_card_of_nodup hnodup, keys, List.length_map]
  rfl

/-- Inserted one by one, the entries of a map make the map again. -/
theorem ofList_entries (m : OrderedMap α) : ofList m.entries = m := by
  have hfront : ∀ entries : List (String × α), (entries.map Prod.fst).Nodup →
      (ofList entries).entries = entries := by
    intro entries
    induction entries using List.reverseRecOn with
    | nil => exact fun _ => rfl
    | append_singleton entries entry ih =>
      intro hnodup
      rw [List.map_append, List.map_singleton, ← List.concat_eq_append, List.nodup_concat] at hnodup
      rw [ofList_concat, entries_insert_of_notMem (mt mem_keys_ofList_iff.1 hnodup.1), ih hnodup.2]
  exact eq_of_entries_eq (hfront m.entries m.nodup)

/-! ### Operations -/

/-- What may be done to a map. -/
inductive Operation (α : Type) where
  /-- A value is put under a key. -/
  | insert (key : String) (value : α)
  /-- The map is given up for the one that is collected from a list. -/
  | collect (entries : List (String × α))

/-- The map after an operation. -/
def step (m : OrderedMap α) : Operation α → OrderedMap α
  | .insert key value => m.insert key value
  | .collect entries => ofList entries

/-- The map after a series of operations, there being none before. -/
def run (operations : List (Operation α)) : OrderedMap α :=
  operations.foldl step empty

/-- The insertions that count after an operation. -/
def Operation.count (inserted : List (String × α)) : Operation α → List (String × α)
  | .insert key value => inserted ++ [(key, value)]
  | .collect entries => entries

/-- The insertions that count after a series of operations: those of the last collection and all
behind it. -/
def insertions (operations : List (Operation α)) : List (String × α) :=
  operations.foldl Operation.count []

theorem step_ofList (inserted : List (String × α)) (operation : Operation α) :
    step (ofList inserted) operation = ofList (operation.count inserted) := by
  cases operation with
  | insert key value => exact (ofList_concat inserted key value).symm
  | collect entries => rfl

/-- A map is the one that is collected from the insertions that count. -/
theorem run_eq_ofList (operations : List (Operation α)) :
    run operations = ofList (insertions operations) := by
  have hfrom : ∀ inserted : List (String × α), operations.foldl step (ofList inserted) =
      ofList (operations.foldl Operation.count inserted) := by
    induction operations with
    | nil => exact fun _ => rfl
    | cons operation operations ih =>
      intro inserted
      rw [List.foldl_cons, List.foldl_cons, step_ofList, ih]
  exact hfrom []

/-- Insertions and nothing else are themselves what counts. -/
theorem insertions_map_insert (entries : List (String × α)) :
    insertions (entries.map fun entry => Operation.insert entry.1 entry.2) = entries := by
  induction entries using List.reverseRecOn with
  | nil => rfl
  | append_singleton entries entry ih =>
    rw [List.map_append, insertions, List.foldl_append, ← insertions, ih]
    rfl

/-- **A map lists what was inserted.** After any series of operations the entries are those of a plain
list with one pass for each insertion that counts. No key occurs twice; the keys are those that were
inserted, in the order of their first insertions; under a key is the value of its last insertion, and
nothing if there was none; and the size is the number of different keys. It makes no difference
whether entries are collected or inserted one by one, and the entries of a map make that map again. -/
theorem run_describes_insertions (operations : List (Operation α)) :
    ((run operations).entries =
      (insertions operations).foldl (fun plain entry => putEntry entry.1 entry.2 plain) []) ∧
    (run operations).keys.Nodup ∧
    (∀ key, key ∈ (run operations).keys ↔ key ∈ (insertions operations).map Prod.fst) ∧
    ((run operations).keys.Pairwise fun a b =>
      ((insertions operations).map Prod.fst).idxOf a <
        ((insertions operations).map Prod.fst).idxOf b) ∧
    (∀ key value, (run operations).get? key = some value ↔
      ∃ before after, insertions operations = before ++ (key, value) :: after ∧
        key ∉ after.map Prod.fst) ∧
    (∀ key, (run operations).get? key = none ↔ key ∉ (insertions operations).map Prod.fst) ∧
    (run operations).size = ((insertions operations).map Prod.fst).toFinset.card ∧
    (∀ entries, run (operations ++ [.collect entries]) =
      run (entries.map fun entry => .insert entry.1 entry.2)) ∧
    run ((run operations).entries.map fun entry => .insert entry.1 entry.2) = run operations := by
  have hkeys := keys_ofList (insertions operations)
  refine ⟨?_, (run operations).nodup, ?_⟩
  · rw [run_eq_ofList, entries_ofList]
  · rw [run_eq_ofList operations]
    refine ⟨fun key => mem_keys_ofList_iff, ?_, fun key value => get?_ofList_eq_some_iff,
      fun key => get?_ofList_eq_none_iff, size_ofList _, fun entries => ?_, ?_⟩
    · rw [hkeys]
      exact pairwise_idxOf_eraseDups _
    · rw [run, List.foldl_append, run_eq_ofList, insertions_map_insert]
      rfl
    · rw [run_eq_ofList, insertions_map_insert, ofList_entries]

example : (run [.insert "b" 1, .insert "a" 2, .insert "b" 3]).entries = [("b", 3), ("a", 2)] := by
  decide

end KeyedFilter.OrderedMap
