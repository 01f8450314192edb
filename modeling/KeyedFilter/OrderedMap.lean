/-!
# Insertion-ordered maps

A map from texts that lists its keys in the order of their first insertion. Inserting under a key
that is there replaces the value and leaves the key where it stands.

* `OrderedMap.insert`, `OrderedMap.get?`, `OrderedMap.ofList`.
* `keys_insert`: what an insertion does to the keys.
* `get?_insert`: what it does to the values.
-/

namespace KeyedFilter

/-- Values under distinct keys, in order. -/
structure OrderedMap (α : Type) where
  entries : List (String × α)
  nodup : (entries.map Prod.fst).Nodup

namespace OrderedMap

variable {α : Type}

/-- The map without keys. -/
def empty : OrderedMap α := ⟨[], by simp⟩

instance : EmptyCollection (OrderedMap α) := ⟨empty⟩

instance : Inhabited (OrderedMap α) := ⟨empty⟩

/-- The keys in order. -/
def keys (m : OrderedMap α) : List String :=
  m.entries.map Prod.fst

/-- The number of keys. -/
def size (m : OrderedMap α) : Nat :=
  m.entries.length

/-- Has the map no keys? -/
def isEmpty (m : OrderedMap α) : Bool :=
  m.entries.isEmpty

/-- The value under a key. -/
def get? (m : OrderedMap α) (key : String) : Option α :=
  m.entries.lookup key

/-- Is there a value under the key? -/
def contains (m : OrderedMap α) (key : String) : Bool :=
  (m.get? key).isSome

/-- The entries with the value under `key` replaced. -/
def replaceEntry (key : String) (value : α) (entries : List (String × α)) : List (String × α) :=
  entries.map fun entry => if entry.1 = key then (key, value) else entry

@[simp] theorem map_fst_replaceEntry (key : String) (value : α) (entries : List (String × α)) :
    (replaceEntry key value entries).map Prod.fst = entries.map Prod.fst := by
  simp only [replaceEntry, List.map_map]
  apply List.map_congr_left
  intro entry _
  simp only [Function.comp_apply]
  split <;> simp_all

theorem nodup_append_key {entries : List (String × α)} (h : (entries.map Prod.fst).Nodup)
    {key : String} (hk : key ∉ entries.map Prod.fst) (value : α) :
    ((entries ++ [(key, value)]).map Prod.fst).Nodup := by
  rw [List.map_append, List.nodup_append]
  refine ⟨h, by simp, ?_⟩
  simp only [List.map_cons, List.map_nil, List.mem_singleton]
  rintro a ha b rfl rfl
  exact hk ha

/-- Puts a value under a key: in place if the key is there, else at the end. -/
def insert (m : OrderedMap α) (key : String) (value : α) : OrderedMap α :=
  if h : key ∈ m.entries.map Prod.fst then
    ⟨replaceEntry key value m.entries, by simpa using m.nodup⟩
  else
    ⟨m.entries ++ [(key, value)], nodup_append_key m.nodup h value⟩

/-- The entries inserted one after the other. -/
def ofList (entries : List (String × α)) : OrderedMap α :=
  entries.foldl (fun m entry => m.insert entry.1 entry.2) empty

@[simp] theorem keys_empty : (empty : OrderedMap α).keys = [] := rfl

theorem keys_insert (m : OrderedMap α) (key : String) (value : α) :
    (m.insert key value).keys = if key ∈ m.keys then m.keys else m.keys ++ [key] := by
  unfold insert keys
  split <;> simp_all

theorem lookup_cons_entry (k key : String) (value : α) (rest : List (String × α)) :
    ((key, value) :: rest).lookup k = if k = key then some value else rest.lookup k := by
  by_cases h : k = key
  · subst h; simp
  · simp [h, List.lookup_cons, beq_eq_false_iff_ne.2 h]

theorem lookup_replaceEntry (key : String) (value : α) (entries : List (String × α))
    (k : String) :
    (replaceEntry key value entries).lookup k =
      if k = key ∧ k ∈ entries.map Prod.fst then some value else entries.lookup k := by
  induction entries with
  | nil => simp [replaceEntry]
  | cons entry rest ih =>
    obtain ⟨a, b⟩ := entry
    simp only [replaceEntry] at ih
    by_cases ha : a = key <;>
      simp only [replaceEntry, List.map_cons, ha, if_true, if_false, lookup_cons_entry, ih,
        List.mem_cons] <;>
      grind

theorem lookup_append_key (key : String) (value : α) (entries : List (String × α))
    (hk : key ∉ entries.map Prod.fst) (k : String) :
    (entries ++ [(key, value)]).lookup k = if k = key then some value else entries.lookup k := by
  induction entries with
  | nil => simp [lookup_cons_entry]
  | cons entry rest ih =>
    obtain ⟨a, b⟩ := entry
    simp only [List.map_cons, List.mem_cons, not_or] at hk
    simp only [List.cons_append, lookup_cons_entry, ih hk.2]
    grind

theorem get?_insert (m : OrderedMap α) (key : String) (value : α) (k : String) :
    (m.insert key value).get? k = if k = key then some value else m.get? k := by
  unfold insert get?
  split
  · next h =>
    rw [lookup_replaceEntry]
    by_cases hk : k = key
    · subst hk; simp_all
    · simp [hk]
  · next h => exact lookup_append_key key value m.entries h k

end OrderedMap

end KeyedFilter
