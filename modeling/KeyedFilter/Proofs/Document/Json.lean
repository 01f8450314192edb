import Mathlib.Data.String.Basic
import Mathlib.Data.List.Nodup
import Mathlib.Tactic.SplitIfs
import KeyedFilter.Number.Basic
import KeyedFilter.Proofs.OrderedMap
import KeyedFilter.Proofs.Document.Outline

/-!
# JSON values

A tree that stands for a value has finite numbers only, and in each object distinct keys in order.
In such a tree a key leads to one member, so that a search for fragments is a search for the objects
with an object under `filter`.

* `Json.IsValue`: the trees that stand for values.
* `Json.pairwise_sortMembers`, `Json.lookup_sortMembers`: the members that such a tree has for some
  written down in any order.
* `Json.nodes`: a tree and everything in it, in pre-order.
* `Json.fragments`: the objects that are read as requests.
* `Json.IsValue.containers_isFilterEntry`: these are what the search finds.
-/

namespace KeyedFilter

/-- Is it a number that JSON has: a whole number, or a double that is no NaN and not infinite? -/
def Number.isFinite : Number → Bool
  | .double x => !x.isNaN && !x.isInfinite
  | _ => true

theorem Number.isFinite_normalize (n : Number) : n.normalize.isFinite = n.isFinite := by
  cases n with
  | signed | double => rfl
  | unsigned n =>
    simp only [normalize, ofInt?]
    split_ifs <;> rfl

namespace Json

/-! ### Values -/

/-- The trees that stand for values: numbers are finite, keys are distinct and in order. -/
inductive IsValue : Json → Prop
  | null : IsValue null
  | bool (b : Bool) : IsValue (bool b)
  | number {n : Number} (hfinite : n.isFinite) : IsValue (number n)
  | string (s : String) : IsValue (string s)
  | array {items : List Json} (hitems : ∀ item ∈ items, IsValue item) : IsValue (array items)
  | object {members : List (String × Json)} (hkeys : (members.map Prod.fst).Pairwise (· < ·))
      (hmembers : ∀ member ∈ members, IsValue member.2) : IsValue (object members)

theorem insertMember_of_forall_lt {key : String} (value : Json) {members : List (String × Json)}
    (h : ∀ k ∈ members.map Prod.fst, k < key) :
    insertMember key value members = members ++ [(key, value)] := by
  induction members with
  | nil => rfl
  | cons member rest ih =>
    obtain ⟨k, v⟩ := member
    rw [List.map_cons, List.forall_mem_cons] at h
    rw [insertMember, compare_gt_iff_gt.2 h.1]
    exact congrArg _ (ih h.2)

/-- Members that are in order stay as they are. -/
theorem sortMembers_eq_self {members : List (String × Json)}
    (h : (members.map Prod.fst).Pairwise (· < ·)) : sortMembers members = members := by
  -- what has been put in so far stays in front, as every key behind it is greater
  suffices hfold : ∀ before after : List (String × Json),
      ((before ++ after).map Prod.fst).Pairwise (· < ·) →
        after.foldl (fun sorted member => insertMember member.1 member.2 sorted) before =
          before ++ after from hfold [] members h
  intro before after h
  induction after generalizing before with
  | nil => simp
  | cons member rest ih =>
    have hlt : ∀ k ∈ before.map Prod.fst, k < member.1 := by
      rw [List.map_append, List.pairwise_append] at h
      exact fun k hk => h.2.2 k hk member.1 (by simp)
    rw [List.foldl_cons, insertMember_of_forall_lt member.2 hlt, ih _ (by simpa using h)]
    simp

theorem lookup_insertMember (key : String) (value : Json) (members : List (String × Json))
    (k : String) : (insertMember key value members).lookup k =
      if k = key then some value else members.lookup k := by
  induction members with
  | nil => exact OrderedMap.lookup_cons_entry k key value []
  | cons member rest ih =>
    obtain ⟨key', value'⟩ := member
    rw [insertMember]
    split
    · exact OrderedMap.lookup_cons_entry k key value _
    · next heq =>
      obtain rfl := compare_eq_iff_eq.1 heq
      simp only [OrderedMap.lookup_cons_entry]
      split_ifs <;> rfl
    · next hgt =>
      have hne := (compare_gt_iff_gt.1 hgt).ne
      simp only [OrderedMap.lookup_cons_entry, ih]
      split_ifs with hk hk'
      · exact absurd (hk.symm.trans hk') hne
      all_goals rfl

theorem mem_keys_insertMember {key k : String} {value : Json} {members : List (String × Json)}
    (h : k ∈ (insertMember key value members).map Prod.fst) :
    k = key ∨ k ∈ members.map Prod.fst := by
  induction members with
  | nil => exact .inl (List.mem_singleton.1 h)
  | cons member rest ih =>
    obtain ⟨key', value'⟩ := member
    rw [insertMember] at h
    split at h
    · exact List.mem_cons.1 h
    · exact (List.mem_cons.1 h).imp_right (List.mem_cons_of_mem _)
    · rcases List.mem_cons.1 h with rfl | h
      · exact .inr List.mem_cons_self
      · exact (ih h).imp_right (List.mem_cons_of_mem _)

theorem pairwise_insertMember {members : List (String × Json)}
    (h : (members.map Prod.fst).Pairwise (· < ·)) (key : String) (value : Json) :
    ((insertMember key value members).map Prod.fst).Pairwise (· < ·) := by
  induction members with
  | nil => exact List.pairwise_singleton _ _
  | cons member rest ih =>
    obtain ⟨key', value'⟩ := member
    have hcons := List.pairwise_cons.1 h
    rw [insertMember]
    split
    · next hlt =>
      have hlt := compare_lt_iff_lt.1 hlt
      refine List.pairwise_cons.2 ⟨fun k hk => ?_, h⟩
      rcases List.mem_cons.1 hk with rfl | hk
      · exact hlt
      · exact hlt.trans (hcons.1 k hk)
    · next heq =>
      obtain rfl := compare_eq_iff_eq.1 heq
      exact h
    · next hgt =>
      refine List.pairwise_cons.2 ⟨fun k hk => ?_, ih hcons.2⟩
      rcases mem_keys_insertMember hk with rfl | hk
      · exact compare_gt_iff_gt.1 hgt
      · exact hcons.1 k hk

theorem sortMembers_concat (members : List (String × Json)) (member : String × Json) :
    sortMembers (members ++ [member]) = insertMember member.1 member.2 (sortMembers members) :=
  List.foldl_concat _ _ _ _

/-- **Sorted members have distinct keys in order.** -/
theorem pairwise_sortMembers (members : List (String × Json)) :
    ((sortMembers members).map Prod.fst).Pairwise (· < ·) := by
  induction members using List.reverseRecOn with
  | nil => exact .nil
  | append_singleton members member ih =>
    rw [sortMembers_concat]
    exact pairwise_insertMember ih _ _

/-- **Sorting keeps the last value under each key.** -/
theorem lookup_sortMembers (members : List (String × Json)) (key : String) :
    (sortMembers members).lookup key = members.reverse.lookup key := by
  induction members using List.reverseRecOn with
  | nil => rfl
  | append_singleton members member ih =>
    rw [sortMembers_concat, lookup_insertMember, ih, List.reverse_concat,
      OrderedMap.lookup_cons_entry]

theorem canonicalMembers_eq (members : List (String × Json)) :
    canonicalMembers members = members.map fun member => (member.1, member.2.canonical) := by
  induction members with
  | nil => rw [canonicalMembers, List.map_nil]
  | cons member rest ih => rw [canonicalMembers, List.map_cons, ih]

/-- Among distinct keys, only one member has a given one. -/
theorem any_eq_lookup_any {members : List (String × Json)}
    (h : (members.map Prod.fst).Nodup) (key : String) (holds : Json → Bool) :
    members.any (fun member => key == member.1 && holds member.2) =
      (members.lookup key).any holds := by
  induction members with
  | nil => rfl
  | cons member rest ih =>
    obtain ⟨k, v⟩ := member
    rw [List.map_cons, List.nodup_cons] at h
    rw [List.any_cons, ih h.2, List.lookup_cons]
    cases hk : key == k with
    | false => simp
    | true =>
      -- the key is found here, so it is not among the keys behind
      have hnone : rest.lookup key = none := by
        rw [List.lookup_eq_none_iff]
        intro member hmember
        rw [beq_iff_eq] at hk
        simpa using fun heq : key = member.1 =>
          h.1 (List.mem_map.2 ⟨member, hmember, by rw [← heq, hk]⟩)
      simp [hnone]

/-! ### Nodes -/

mutual

/-- The tree and everything in it, a container before what it contains. -/
def nodes : Json → List Json
  | array items => array items :: nodesOfItems items
  | object members => object members :: nodesOfMembers members
  | json => [json]

/-- The nodes of a list of items. -/
def nodesOfItems : List Json → List Json
  | [] => []
  | item :: rest => nodes item ++ nodesOfItems rest

/-- The nodes of the values of members. -/
def nodesOfMembers : List (String × Json) → List Json
  | [] => []
  | (_, value) :: rest => nodes value ++ nodesOfMembers rest

end

theorem nodesOfItems_eq (items : List Json) : nodesOfItems items = items.flatMap nodes := by
  induction items with
  | nil => rw [nodesOfItems, List.flatMap_nil]
  | cons item rest ih => rw [nodesOfItems, List.flatMap_cons, ih]

theorem nodesOfMembers_eq (members : List (String × Json)) :
    nodesOfMembers members = members.flatMap fun member => nodes member.2 := by
  induction members with
  | nil => rw [nodesOfMembers, List.flatMap_nil]
  | cons member rest ih => rw [nodesOfMembers, List.flatMap_cons, ih]

/-- What is inside a value is a value. -/
theorem IsValue.of_mem_nodes {json node : Json} (h : json.IsValue) (hnode : node ∈ json.nodes) :
    node.IsValue := by
  induction h with
  | null => exact List.mem_singleton.1 hnode ▸ .null
  | bool b => exact List.mem_singleton.1 hnode ▸ .bool b
  | number hfinite => exact List.mem_singleton.1 hnode ▸ .number hfinite
  | string s => exact List.mem_singleton.1 hnode ▸ .string s
  | array hitems ih =>
    rw [nodes, nodesOfItems_eq, List.mem_cons, List.mem_flatMap] at hnode
    obtain rfl | ⟨item, hitem, hnode⟩ := hnode
    · exact .array hitems
    · exact ih item hitem hnode
  | object hkeys hmembers ih =>
    rw [nodes, nodesOfMembers_eq, List.mem_cons, List.mem_flatMap] at hnode
    obtain rfl | ⟨member, hmember, hnode⟩ := hnode
    · exact .object hkeys hmembers
    · exact ih member hmember hnode

/-- The entries of a container, none for a scalar. -/
def entries : Json → List (Option String × Json)
  | array items => items.map fun item => (none, item)
  | object members => members.map fun member => (some member.1, member.2)
  | _ => []

/-- Is the tree an array or an object? -/
def isContainer : Json → Bool
  | array _ => true
  | object _ => true
  | _ => false

theorem isContainer_canonical (json : Json) : json.canonical.isContainer = json.isContainer := by
  cases json <;> simp only [canonical] <;> rfl

/-- A tree that is no container is its own value. -/
theorem canonical_eq_self {json : Json} (h : json.isContainer = false) : json.canonical = json := by
  cases json with
  | array | object => exact absurd h.symm Bool.false_ne_true
  | _ => simp only [canonical]

theorem root_outline (json : Json) : json.outline.root = json := by
  cases json <;> rfl

theorem outlineItems_eq (items : List Json) :
    outlineItems items = items.map fun item => (none, item.outline) := by
  induction items with
  | nil => rw [outlineItems, List.map_nil]
  | cons item rest ih => rw [outlineItems, List.map_cons, ih]

theorem outlineMembers_eq (members : List (String × Json)) :
    outlineMembers members = members.map fun member => (some member.1, member.2.outline) := by
  induction members with
  | nil => rw [outlineMembers, List.map_nil]
  | cons member rest ih => rw [outlineMembers, List.map_cons, ih]

mutual

/-- The containers of a tree are nodes of it, and each has its own entries. -/
theorem branches_outline (json : Json) :
    json.outline.branches =
      (json.nodes.filter isContainer).map fun node => (node, node.entries) := by
  cases json with
  | null | bool | number | string => rfl
  | array items =>
    rw [outline, Outline.branches, branches_outlineItems items, nodes, outlineItems_eq,
      List.filter_cons_of_pos rfl, List.map_cons, List.map_map]
    simp only [Function.comp_def, root_outline, entries]
  | object members =>
    rw [outline, Outline.branches, branches_outlineMembers members, nodes, outlineMembers_eq,
      List.filter_cons_of_pos rfl, List.map_cons, List.map_map]
    simp only [Function.comp_def, root_outline, entries]

theorem branches_outlineItems (items : List Json) :
    Outline.branchesIn (outlineItems items) =
      ((nodesOfItems items).filter isContainer).map fun node => (node, node.entries) := by
  cases items with
  | nil => rfl
  | cons item rest =>
    rw [outlineItems, Outline.branchesIn, branches_outline item, branches_outlineItems rest,
      nodesOfItems, List.filter_append, List.map_append]

theorem branches_outlineMembers (members : List (String × Json)) :
    Outline.branchesIn (outlineMembers members) =
      ((nodesOfMembers members).filter isContainer).map fun node => (node, node.entries) := by
  cases members with
  | nil => rfl
  | cons member rest =>
    rw [outlineMembers, Outline.branchesIn, branches_outline member.2,
      branches_outlineMembers rest, nodesOfMembers, List.filter_append, List.map_append]

end

/-! ### Fragments -/

/-- Is the tree an object with an object under `filter`? -/
def holdsFilters (json : Json) : Bool :=
  (json.member? "filter").any isObject

/-- The objects of a tree with an object under `filter`, in pre-order. -/
def fragments (json : Json) : List Json :=
  json.nodes.filter holdsFilters

theorem IsValue.any_isFilterEntry {json : Json} (h : json.IsValue) :
    (json.isContainer && json.entries.any fun entry => isFilterEntry entry.1 entry.2) =
      json.holdsFilters := by
  cases h with
  | null | bool | number | string => rfl
  | array hitems => simp [isContainer, entries, isFilterEntry, holdsFilters, member?]
  | object hkeys hmembers =>
    have hnodup := hkeys.imp fun hlt => ne_of_lt hlt
    rw [holdsFilters, member?, ← any_eq_lookup_any hnodup]
    simp [isContainer, entries, isFilterEntry, Function.comp_def, BEq.comm]

/-- A fragment is an object in which everything under `filter` is an object. -/
theorem IsValue.exists_members {json : Json} (h : json.IsValue) (hholds : json.holdsFilters) :
    ∃ members, json = .object members ∧ (∀ member ∈ members, member.2.IsValue) ∧
      ∀ member ∈ members, member.1 = "filter" → member.2.isObject := by
  cases h with
  | null | bool | number | string | array => exact absurd hholds Bool.false_ne_true
  | @object members hkeys hmembers =>
    obtain ⟨value, hvalue, hobject⟩ := (Option.any_eq_true _ _).1 hholds
    refine ⟨members, rfl, hmembers, ?_⟩
    rintro ⟨key, value'⟩ hmember rfl
    have hlookup : members.lookup "filter" = some value' :=
      (OrderedMap.lookup_eq_some_iff (hkeys.imp fun hlt => ne_of_lt hlt)).2 hmember
    obtain rfl : value = value' := Option.some.inj (hvalue.symm.trans hlookup)
    exact hobject

/-- **The search finds the objects with an object under `filter`.** -/
theorem IsValue.containers_isFilterEntry {json : Json} (h : json.IsValue) :
    json.outline.containers isFilterEntry = json.fragments := by
  rw [Outline.containers_eq, branches_outline, List.filter_map, List.map_map, List.filter_filter]
  simp only [Function.comp_def, List.map_id']
  apply List.filter_congr
  intro node hnode
  rw [Bool.and_comm]
  exact (h.of_mem_nodes hnode).any_isFilterEntry

end Json

end KeyedFilter
