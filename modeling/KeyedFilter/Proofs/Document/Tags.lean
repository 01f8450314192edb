import KeyedFilter.Proofs.Document.Questions

/-!
# Searches look through tags

A tagged node stands where the node inside its tags would stand: it has the same children, and the
inner node is no node of its own. So the outline of a tree without its tags is the outline of the
tree, with other nodes at the same places, and a search that does not ask for tags goes the same way
in both.

* `Yaml.eraseTags`: the tree without the tags of its nodes.
* `Outline.map`: another node at every place.
* `Yaml.outline_eraseTags`: the places are the same.
* `Outline.keepAccepted_along`: two searches whose comparators go along with each other.
* `Yaml.tags_transparent`: the paths and the questions of a search.
-/

namespace KeyedFilter

/-! ### Outlines with other nodes -/

namespace Outline

variable {κ μ ν : Type}

mutual

/-- The same outline with another node at every place. -/
def map (f : μ → ν) : Outline κ μ → Outline κ ν
  | leaf node => leaf (f node)
  | branch node entries => branch (f node) (mapEntries f entries)

/-- The same entries with other nodes. -/
def mapEntries (f : μ → ν) : List (Option κ × Outline κ μ) → List (Option κ × Outline κ ν)
  | [] => []
  | (key, child) :: rest => (key, map f child) :: mapEntries f rest

end

variable (f : μ → ν)

theorem mapEntries_eq (entries : List (Option κ × Outline κ μ)) :
    mapEntries f entries = entries.map fun entry => (entry.1, entry.2.map f) := by
  induction entries with
  | nil => rw [mapEntries, List.map_nil]
  | cons entry rest ih => rw [mapEntries, ih, List.map_cons]

theorem root_map (outline : Outline κ μ) : (outline.map f).root = f outline.root := by
  cases outline <;> rfl

theorem map_setRoot (outline : Outline κ μ) (node : μ) :
    (outline.setRoot node).map f = (outline.map f).setRoot (f node) := by
  cases outline <;> rfl

theorem setRoot_root (outline : Outline κ ν) : outline.setRoot outline.root = outline := by
  cases outline <;> rfl

mutual

/-- The containers are at the same places. -/
theorem branches_map : (outline : Outline κ μ) →
    (outline.map f).branches = outline.branches.map (Branch.map f)
  | leaf node => by rw [map, branches, branches, List.map_nil]
  | branch node entries => by
    rw [map, branches, branches, List.map_cons, branchesIn_mapEntries entries, mapEntries_eq,
      Branch.map, List.map_map, List.map_map]
    simp only [Function.comp_def, root_map]

theorem branchesIn_mapEntries : (entries : List (Option κ × Outline κ μ)) →
    branchesIn (mapEntries f entries) = (branchesIn entries).map (Branch.map f)
  | [] => by rw [mapEntries, branchesIn, branchesIn, List.map_nil]
  | (key, child) :: rest => by
    rw [mapEntries, branchesIn, branchesIn, branches_map child, branchesIn_mapEntries rest,
      List.map_append]

end

mutual

/-- The paths are the same. -/
theorem withPathsBelow_map (path : List (Step κ)) : (outline : Outline κ μ) →
    (outline.map f).withPathsBelow path = (outline.withPathsBelow path).map (Prod.map id f)
  | leaf node => by rw [map, withPathsBelow, withPathsBelow, map, Prod.map, id]
  | branch node entries => by
    rw [map, withPathsBelow, withPathsBelow, map, Prod.map, id,
      entriesWithPaths_mapEntries path 0 entries]

theorem entriesWithPaths_mapEntries (path : List (Step κ)) (index : ℕ) :
    (entries : List (Option κ × Outline κ μ)) →
    entriesWithPaths path index (mapEntries f entries) =
      mapEntries (Prod.map id f) (entriesWithPaths path index entries)
  | [] => by rw [mapEntries, entriesWithPaths, entriesWithPaths, mapEntries]
  | (key, child) :: rest => by
    rw [mapEntries, entriesWithPaths, entriesWithPaths, mapEntries, withPathsBelow_map _ child,
      entriesWithPaths_mapEntries path (index + 1) rest]

end

/-- A search among other nodes is the search of a comparator that is told of these. -/
theorem collect_map {σ : Type} (accepts : Option κ → ν → ν → StateM σ Bool)
    (outline : Outline κ μ) :
    (outline.map f).collect accepts = List.map f <$> outline.collect fun key child container =>
      accepts key (f child) (f container) := by
  rw [collect_eq_keepAccepted, collect_eq_keepAccepted, branches_map, keepAccepted_map]

end Outline

/-! ### Comparators that go along with each other -/

namespace Outline

variable {α κ ν σ τ : Type}

theorem anyM_along {f : σ → τ} {p : α → StateM σ Bool} {q : α → StateM τ Bool}
    (hstep : ∀ a s, q a (f s) = Prod.map id f (p a s)) (l : List α) (s : σ) :
    l.anyM q (f s) = Prod.map id f (l.anyM p s) := by
  induction l generalizing s with
  | nil => rfl
  | cons a rest ih =>
    simp only [List.anyM, bind, StateT.bind, hstep]
    rcases p a s with ⟨_ | _, s'⟩
    · exact ih s'
    · rfl

/-- If every answer of a comparator leaves it where the same answer leaves another one, so does a
whole search. -/
theorem keepAccepted_along {f : σ → τ} {accepts : Option κ → ν → ν → StateM σ Bool}
    {accepts' : Option κ → ν → ν → StateM τ Bool}
    (hstep : ∀ key child container s,
      accepts' key child container (f s) = Prod.map id f (accepts key child container s))
    (branches : List (Branch κ ν)) (s : σ) :
    keepAccepted accepts' branches (f s) = Prod.map id f (keepAccepted accepts branches s) := by
  induction branches generalizing s with
  | nil => rfl
  | cons branch rest ih =>
    obtain ⟨node, entries⟩ := branch
    have hentries := anyM_along
      (fun (entry : Option κ × ν) s => hstep entry.1 entry.2 node s) entries s
    rcases hrun : entries.anyM (fun entry => accepts entry.1 entry.2 node) s with ⟨hit, s'⟩
    rw [hrun] at hentries
    simp only [keepAccepted, bind, StateT.bind, hentries, hrun, Prod.map, id, ih]
    rfl

end Outline

/-- The question with other nodes. -/
def Question.map {κ μ ν : Type} (f : μ → ν) (q : Question κ μ) : Question κ ν :=
  ⟨q.key, f q.child, f q.container⟩

/-- What is written down about other nodes are the same answers. -/
theorem Outline.recorded_map {κ μ ν σ : Type} (accepts : Option κ → ν → ν → StateM σ Bool)
    (f : μ → ν) (outline : Outline κ μ) (s : σ) (log : List (Question κ μ × Bool)) :
    (outline.map f).collect (recorded accepts) (s, log.map (Prod.map (Question.map f) id)) =
      Prod.map (List.map f) (Prod.map id (List.map (Prod.map (Question.map f) id)))
        (outline.collect (recorded fun key child container =>
          accepts key (f child) (f container)) (s, log)) := by
  let rename : σ × List (Question κ μ × Bool) → σ × List (Question κ ν × Bool) :=
    Prod.map id (List.map (Prod.map (Question.map f) id))
  have hstep (key : Option κ) (child container : μ) (state : σ × List (Question κ μ × Bool)) :
      recorded accepts key (f child) (f container) (rename state) =
        Prod.map id rename (recorded
          (fun key child container => accepts key (f child) (f container))
          key child container state) := by
    rcases hask : accepts key (f child) (f container) state.1 with ⟨answer, s'⟩
    simp [recorded, rename, hask, Question.map]
  have halong := keepAccepted_along hstep outline.branches (s, log)
  rw [collect_map, collect_eq_keepAccepted, collect_eq_keepAccepted]
  exact congrArg (Prod.map (List.map f) id) halong

namespace Yaml

mutual

/-- The tree without the tags around its nodes; keys stay as they are. -/
def eraseTags : Yaml → Yaml
  | sequence items => sequence (eraseItems items)
  | mapping entries => mapping (eraseEntries entries)
  | tagged _ value => eraseTags value
  | node => node

/-- The items without tags. -/
def eraseItems : List Yaml → List Yaml
  | [] => []
  | item :: rest => eraseTags item :: eraseItems rest

/-- The entries with values without tags. -/
def eraseEntries : List (Yaml × Yaml) → List (Yaml × Yaml)
  | [] => []
  | (key, value) :: rest => (key, eraseTags value) :: eraseEntries rest

end

mutual

/-- **The places of a tree are those of the tree without tags.** -/
theorem outline_eraseTags : (yaml : Yaml) → yaml.eraseTags.outline = yaml.outline.map eraseTags
  | null | bool _ | number _ | string _ => rfl
  | sequence items => by
    rw [eraseTags, outline, outline, Outline.map, outlineItems_eraseItems items, eraseTags]
  | mapping entries => by
    rw [eraseTags, outline, outline, Outline.map, outlineEntries_eraseEntries entries, eraseTags]
  | tagged tag value => by
    -- the inner node is replaced by the tagged one, and erasure brings it back
    rw [eraseTags, outline_eraseTags value, outline, Outline.map_setRoot, eraseTags]
    have hroot : (value.outline.map eraseTags).root = value.eraseTags := by
      rw [Outline.root_map]
      exact congrArg eraseTags (Document.root_outline value)
    rw [← hroot, Outline.setRoot_root]

theorem outlineItems_eraseItems : (items : List Yaml) →
    outlineItems (eraseItems items) = Outline.mapEntries eraseTags (outlineItems items)
  | [] => by rw [eraseItems, outlineItems, Outline.mapEntries]
  | item :: rest => by
    rw [eraseItems, outlineItems, outlineItems, Outline.mapEntries, outline_eraseTags item,
      outlineItems_eraseItems rest]

theorem outlineEntries_eraseEntries : (entries : List (Yaml × Yaml)) →
    outlineEntries (eraseEntries entries) = Outline.mapEntries eraseTags (outlineEntries entries)
  | [] => by rw [eraseEntries, outlineEntries, Outline.mapEntries]
  | (key, value) :: rest => by
    rw [eraseEntries, outlineEntries, outlineEntries, Outline.mapEntries, outline_eraseTags value,
      outlineEntries_eraseEntries rest]

end

/-- **Tags make no difference to a search that does not ask for them.** If a comparator answers as it
would for nodes without tags, it finds containers at the same paths in a tree and in the tree
without tags, in the same order. It is asked as often, about the same places, with the same answers,
and a state that it may have is left the same. -/
theorem tags_transparent {σ : Type} {accepts : Option Yaml → Yaml → Yaml → StateM σ Bool}
    (hblind : ∀ key child container,
      accepts key child container = accepts key child.eraseTags container.eraseTags)
    (yaml : Yaml) (s : σ) :
    let comparator := fun key (child container : List (Step Yaml) × Yaml) =>
      accepts key child.2 container.2
    let run := fun yaml : Yaml => yaml.outline.withPaths.collect comparator s
    let calls := fun yaml : Yaml =>
      (yaml.outline.withPaths.collect (Outline.recorded comparator) (s, [])).2.2
    (run yaml.eraseTags).1.map Prod.fst = (run yaml).1.map Prod.fst ∧
    (run yaml.eraseTags).2 = (run yaml).2 ∧
    (calls yaml.eraseTags).length = (calls yaml).length ∧
    calls yaml.eraseTags = (calls yaml).map
      (Prod.map (Question.map (Prod.map id eraseTags)) id) := by
  intro comparator run calls
  have hpaths : yaml.eraseTags.outline.withPaths =
      yaml.outline.withPaths.map (Prod.map id eraseTags) := by
    rw [outline_eraseTags]
    exact Outline.withPathsBelow_map eraseTags [] yaml.outline
  have hcomparator : (fun key child container => comparator key (Prod.map id eraseTags child)
      (Prod.map id eraseTags container)) = comparator := by
    funext key child container
    exact (hblind key child.2 container.2).symm
  have hrun : run yaml.eraseTags =
      Prod.map (List.map (Prod.map id eraseTags)) id (run yaml) := by
    simp only [run, hpaths, Outline.collect_map, hcomparator]
    rfl
  have hcalls : calls yaml.eraseTags = (calls yaml).map
      (Prod.map (Question.map (Prod.map id eraseTags)) id) := by
    have hrecorded := Outline.recorded_map comparator (Prod.map id eraseTags)
      yaml.outline.withPaths s []
    rw [hcomparator, ← hpaths] at hrecorded
    exact congrArg (fun result => result.2.2) hrecorded
  refine ⟨?_, ?_, ?_, hcalls⟩
  · rw [hrun, Prod.map_fst, List.map_map]
    rfl
  · rw [hrun]
    rfl
  · rw [hcalls, List.length_map]

/-- A mapping is found inside its tags. -/
theorem isSome_entries?_eraseTags :
    (yaml : Yaml) → yaml.eraseTags.entries?.isSome = yaml.entries?.isSome
  | null | bool _ | number _ | string _ => rfl
  | sequence _ => by rw [eraseTags]; rfl
  | mapping _ => by rw [eraseTags]; rfl
  | tagged _ value => by
    rw [eraseTags, isSome_entries?_eraseTags value]
    rfl

/-- The search for requests does not ask for tags; here a report and its filter have some. -/
theorem tags_transparent_report :
    let accepts : Option Yaml → Yaml → Yaml → StateM ℕ Bool := fun key child _ => do
      modify (· + 1)
      return isFilterEntry key child
    let comparator := fun key (child container : List (Step Yaml) × Yaml) =>
      accepts key child.2 container.2
    let filter := fun value => mapping [(string "filter", value)]
    let report := tagged "!site" (mapping [(string "reports", tagged "!list" (sequence
      [tagged "!a" (tagged "!b" (filter (tagged "!f" (mapping [])))),
        filter (tagged "!text" (string "all"))]))])
    (∀ key child container,
      accepts key child container = accepts key child.eraseTags container.eraseTags) ∧
    (report.eraseTags.outline.withPaths.collect comparator 0).1.map Prod.fst =
      [[.key (string "reports"), .item 0]] ∧
    (report.eraseTags.outline.withPaths.collect comparator 0).2 = 5 := by
  intro accepts comparator filter report
  have hblind (key : Option Yaml) (child container : Yaml) :
      accepts key child container = accepts key child.eraseTags container.eraseTags := by
    simp only [accepts, isFilterEntry, isSome_entries?_eraseTags]
  obtain ⟨hpaths, hstate, -⟩ := tags_transparent hblind report 0
  exact ⟨hblind, hpaths.trans rfl, hstate.trans rfl⟩

end Yaml

end KeyedFilter
