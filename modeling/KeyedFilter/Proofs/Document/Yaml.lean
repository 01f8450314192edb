import KeyedFilter.Request.FilterReading
import KeyedFilter.Proofs.Document.Json

/-!
# JSON trees in YAML

Every JSON tree can be written in YAML: texts as keys, entries in the same order, no tags. Read as
JSON again, a value is the same value, and a search finds the same containers.

* `Yaml.ofJson`: the tree in YAML.
* `Yaml.toJson_ofJson`: the way back.
* `Yaml.containers_ofJson`: what a search for fragments finds.
-/

namespace KeyedFilter

theorem Json.ofNumber_eq (n : Number) :
    Json.ofNumber n = if n.isFinite then .number n else .null := by
  cases n with
  | signed | unsigned => rfl
  | double x =>
    cases hnan : x.isNaN <;> cases hinfinite : x.isInfinite <;>
      simp [ofNumber, Number.isFinite, hnan, hinfinite]

namespace Yaml

mutual

/-- A JSON tree as a YAML tree. -/
def ofJson : Json → Yaml
  | .null => null
  | .bool b => bool b
  | .number n => number n
  | .string s => string s
  | .array items => sequence (ofItems items)
  | .object members => mapping (ofMembers members)

/-- The items as YAML trees. -/
def ofItems : List Json → List Yaml
  | [] => []
  | item :: rest => ofJson item :: ofItems rest

/-- The members as entries of a mapping. -/
def ofMembers : List (String × Json) → List (Yaml × Yaml)
  | [] => []
  | (key, value) :: rest => (string key, ofJson value) :: ofMembers rest

end

theorem ofItems_eq (items : List Json) : ofItems items = items.map ofJson := by
  induction items with
  | nil => rw [ofItems, List.map_nil]
  | cons item rest ih => rw [ofItems, List.map_cons, ih]

theorem ofMembers_eq (members : List (String × Json)) :
    ofMembers members = members.map fun member => (string member.1, ofJson member.2) := by
  induction members with
  | nil => rw [ofMembers, List.map_nil]
  | cons member rest ih => rw [ofMembers, List.map_cons, ih]

theorem isSome_entries?_ofJson (json : Json) : (ofJson json).entries?.isSome = json.isObject := by
  cases json <;> rfl

/-- A loop over the entries of a mapping that takes each of them like the member is a loop over the
members. -/
theorem foldlM_ofMembers {β δ : Type} {f : β → Yaml × Yaml → Except δ β}
    {g : β → String × Json → Except δ β} {members : List (String × Json)}
    (h : ∀ member ∈ members, ∀ b, f b (string member.1, ofJson member.2) = g b member) (b : β) :
    (ofMembers members).foldlM f b = members.foldlM g b := by
  induction members generalizing b with
  | nil => rfl
  | cons member rest ih =>
    rw [List.forall_mem_cons] at h
    rw [ofMembers, List.foldlM_cons, List.foldlM_cons, h.1]
    exact congrArg _ (funext fun next => ih h.2 next)

/-! ### The way back -/

theorem itemsToJson_ofItems {items : List Json}
    (h : ∀ item ∈ items, (ofJson item).toJson = .ok item) :
    itemsToJson (ofItems items) = .ok items := by
  induction items with
  | nil => rw [ofItems, itemsToJson]
  | cons item rest ih =>
    rw [List.forall_mem_cons] at h
    rw [ofItems, itemsToJson, h.1, ih h.2]
    rfl

theorem entriesToJson_ofMembers (wanted : Wanted) {members : List (String × Json)}
    (h : ∀ member ∈ members, (ofJson member.2).toJson = .ok member.2) :
    entriesToJson wanted (ofMembers members) = .ok members := by
  induction members generalizing wanted with
  | nil => rw [ofMembers, entriesToJson]
  | cons member rest ih =>
    rw [List.forall_mem_cons] at h
    rw [ofMembers, entriesToJson, h.1, ih .string h.2]
    rfl

/-- **A value that is written in YAML is read as the same value.** -/
theorem toJson_ofJson {json : Json} (h : json.IsValue) : (ofJson json).toJson = .ok json := by
  induction h with
  | null | bool | string => rw [ofJson, toJson]
  | number hfinite => rw [ofJson, toJson, Json.ofNumber_eq, if_pos hfinite]
  | array hitems ih => rw [ofJson, toJson, itemsToJson_ofItems ih]; rfl
  | object hkeys hmembers ih =>
    rw [ofJson, toJson, entriesToJson_ofMembers _ ih]
    -- the members are sorted on the way, and they are sorted already
    exact congrArg (fun members => Except.ok (Json.object members)) (Json.sortMembers_eq_self hkeys)

/-! ### Containers -/

/-- A container and its entries in YAML. -/
def ofBranch (branch : Outline.Branch String Json) : Outline.Branch Yaml Yaml :=
  (ofJson branch.1, branch.2.map fun entry => (entry.1.map string, ofJson entry.2))

theorem outlineItems_eq (items : List Yaml) :
    outlineItems items = items.map fun item => (none, item.outline) := by
  induction items with
  | nil => rw [outlineItems, List.map_nil]
  | cons item rest ih => rw [outlineItems, List.map_cons, ih]

theorem outlineEntries_eq (entries : List (Yaml × Yaml)) :
    outlineEntries entries = entries.map fun entry => (some entry.1, entry.2.outline) := by
  induction entries with
  | nil => rw [outlineEntries, List.map_nil]
  | cons entry rest ih => rw [outlineEntries, List.map_cons, ih]

theorem root_outline_ofJson (json : Json) : (ofJson json).outline.root = ofJson json := by
  cases json <;> rfl

mutual

theorem branches_outline_ofJson (json : Json) :
    (ofJson json).outline.branches = json.outline.branches.map ofBranch := by
  cases json with
  | null | bool | number | string => rfl
  | array items =>
    rw [ofJson, outline, Outline.branches, branches_outlineItems_ofItems items, outlineItems_eq,
      ofItems_eq, Json.outline, Outline.branches, List.map_cons, Json.outlineItems_eq, ofBranch,
      ofJson, ofItems_eq]
    simp [root_outline_ofJson, Json.root_outline]
  | object members =>
    rw [ofJson, outline, Outline.branches, branches_outlineEntries_ofMembers members,
      outlineEntries_eq, ofMembers_eq, Json.outline, Outline.branches, List.map_cons,
      Json.outlineMembers_eq, ofBranch, ofJson, ofMembers_eq]
    simp [root_outline_ofJson, Json.root_outline]

theorem branches_outlineItems_ofItems (items : List Json) :
    Outline.branchesIn (outlineItems (ofItems items)) =
      (Outline.branchesIn (Json.outlineItems items)).map ofBranch := by
  cases items with
  | nil => rfl
  | cons item rest =>
    rw [ofItems, outlineItems, Outline.branchesIn, branches_outline_ofJson item,
      branches_outlineItems_ofItems rest, Json.outlineItems, Outline.branchesIn, List.map_append]

theorem branches_outlineEntries_ofMembers (members : List (String × Json)) :
    Outline.branchesIn (outlineEntries (ofMembers members)) =
      (Outline.branchesIn (Json.outlineMembers members)).map ofBranch := by
  cases members with
  | nil => rfl
  | cons member rest =>
    rw [ofMembers, outlineEntries, Outline.branchesIn, branches_outline_ofJson member.2,
      branches_outlineEntries_ofMembers rest, Json.outlineMembers, Outline.branchesIn,
      List.map_append]

end

theorem isFilterEntry_ofJson (key : Option String) (value : Json) :
    isFilterEntry (key.map string) (ofJson value) = Json.isFilterEntry key value := by
  rw [isFilterEntry, Json.isFilterEntry, isSome_entries?_ofJson]
  cases key with
  | none => rfl
  | some key => simp [same, BEq.comm]

/-- **A search finds the same containers in both.** -/
theorem containers_ofJson (json : Json) :
    (ofJson json).outline.containers isFilterEntry =
      (json.outline.containers Json.isFilterEntry).map ofJson := by
  have hholds (branch : Outline.Branch String Json) :
      ((ofBranch branch).2.any fun entry => isFilterEntry entry.1 entry.2) =
        branch.2.any fun entry => Json.isFilterEntry entry.1 entry.2 := by
    simp only [ofBranch, List.any_map, Function.comp_def, isFilterEntry_ofJson]
  rw [Outline.containers_eq, Outline.containers_eq, branches_outline_ofJson, List.filter_map,
    List.map_map, List.map_map]
  simp only [Function.comp_def, hholds]
  rfl

end Yaml

end KeyedFilter
