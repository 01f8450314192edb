import Mathlib.Data.List.Nodup
import KeyedFilter.Proofs.Document.Yaml

/-!
# Positions in documents

Equal nodes may stand at several positions of a document, so a search has to tell nodes apart by
their positions: the indices of the entries on the way down from the root. In the order of positions
a container stands before what is inside it, and an entry with all that is inside it stands before
the next entry; that is pre-order.

* `Document`: JSON and YAML trees, with the children of a node and its outline.
* `Document.nodeAt?`: the node at a position.
* `Document.containersFrom`: the containers from a node on, in pre-order.
* `Document.mem_containersFrom`, `Document.pairwise_containersFrom`: they are the containers, each at
  its position and in the order of positions.
-/

namespace KeyedFilter

/-- Trees of nodes that are leaves or have children, in order and perhaps under keys. The outline of
a node shows the children of all that is inside it. -/
class Document (ν : Type) (κ : outParam Type) where
  /-- The children of a container, none for a leaf. -/
  children? : ν → Option (List (Option κ × ν))
  outline : ν → Outline κ ν
  outline_eq : ∀ node, outline node = (children? node).elim (.leaf node) fun children =>
    .branch node (children.map fun child => (child.1, outline child.2))

instance : Document Json String where
  children? json := if json.isContainer then some json.entries else none
  outline := Json.outline
  outline_eq json := by
    cases json with
    | null | bool | number | string => rfl
    | array items =>
      simp only [Json.isContainer, if_true, Json.entries, Json.outline, Json.outlineItems_eq,
        Option.elim, List.map_map]
      rfl
    | object members =>
      simp only [Json.isContainer, if_true, Json.entries, Json.outline, Json.outlineMembers_eq,
        Option.elim, List.map_map]
      rfl

namespace Yaml

/-- The children of a node. Those of a tagged node are those of the node inside the tag. -/
def children? : Yaml → Option (List (Option Yaml × Yaml))
  | sequence items => some (items.map fun item => (none, item))
  | mapping entries => some (entries.map fun entry => (some entry.1, entry.2))
  | tagged _ value => value.children?
  | _ => none

theorem outline_eq_children : (yaml : Yaml) → yaml.outline =
    yaml.children?.elim (.leaf yaml) fun children =>
      .branch yaml (children.map fun child => (child.1, child.2.outline))
  | null | bool _ | number _ | string _ => rfl
  | sequence items => by
    simp only [children?, outline, outlineItems_eq, Option.elim, List.map_map]
    rfl
  | mapping entries => by
    simp only [children?, outline, outlineEntries_eq, Option.elim, List.map_map]
    rfl
  | tagged tag value => by
    rw [outline, outline_eq_children value, children?]
    cases value.children? <;> rfl

end Yaml

instance : Document Yaml Yaml where
  children? := Yaml.children?
  outline := Yaml.outline
  outline_eq := Yaml.outline_eq_children

namespace Document

variable {κ ν : Type} [Document ν κ]

theorem outline_eq_leaf {node : ν} (h : children? node = none) : outline node = .leaf node := by
  rw [outline_eq, h]
  rfl

theorem outline_eq_branch {node : ν} {children : List (Option κ × ν)}
    (h : children? node = some children) :
    outline node = .branch node (children.map fun child => (child.1, outline child.2)) := by
  rw [outline_eq, h]
  rfl

theorem root_outline (node : ν) : (outline node).root = node := by
  cases h : children? node with
  | none => rw [outline_eq_leaf h, Outline.root]
  | some children => rw [outline_eq_branch h, Outline.root]

/-- **What holds of a node when it holds of its children holds of all nodes**, as outlines are
finite. -/
theorem induction {motive : ν → Prop}
    (step : ∀ node, (∀ children, children? node = some children → ∀ child ∈ children,
      motive child.2) → motive node) (node : ν) : motive node := by
  induction hsize : sizeOf (outline node) using Nat.strongRecOn generalizing node with
  | _ n ih =>
    refine step node fun children hchildren child hchild => ih _ ?_ child.2 rfl
    have hmem := List.mem_map_of_mem (f := fun child => (child.1, outline child.2)) hchild
    have hlt := List.sizeOf_lt_of_mem hmem
    rw [← hsize, outline_eq_branch hchildren]
    simp only [Prod.mk.sizeOf_spec, Outline.branch.sizeOf_spec] at hlt ⊢
    omega

/-! ### Positions -/

/-- The indices of the entries on the way from the root to a node. -/
abbrev Position := List ℕ

/-- The node at a position below a node. -/
def nodeAt? (node : ν) : Position → Option ν
  | [] => some node
  | index :: rest => (children? node).bind fun children =>
      children[index]?.bind fun child => nodeAt? child.2 rest

end Document

/-- A node at a position. -/
abbrev Place (ν : Type) := Document.Position × ν

namespace Outline

variable {κ ν : Type}

mutual

/-- Marks every node with its position, the topmost one standing at `position`. -/
def placed (position : Document.Position) : Outline κ ν → Outline κ (Place ν)
  | leaf node => leaf (position, node)
  | branch node entries => branch (position, node) (entriesPlaced position 0 entries)

/-- Marks the nodes of the entries from an index on. -/
def entriesPlaced (position : Document.Position) (index : ℕ) :
    List (Option κ × Outline κ ν) → List (Option κ × Outline κ (Place ν))
  | [] => []
  | (key, child) :: rest =>
    (key, placed (position ++ [index]) child) :: entriesPlaced position (index + 1) rest

end

theorem entriesPlaced_eq (position : Document.Position) (index : ℕ)
    (entries : List (Option κ × Outline κ ν)) :
    entriesPlaced position index entries = (entries.zipIdx index).map fun entry =>
      (entry.1.1, placed (position ++ [entry.2]) entry.1.2) := by
  induction entries generalizing index with
  | nil => rw [entriesPlaced, List.zipIdx_nil, List.map_nil]
  | cons entry rest ih => rw [entriesPlaced, ih, List.zipIdx_cons, List.map_cons]

theorem root_placed (position : Document.Position) (outline : Outline κ ν) :
    (outline.placed position).root = (position, outline.root) := by
  cases outline <;> rfl

theorem branchesIn_eq (entries : List (Option κ × Outline κ ν)) :
    branchesIn entries = entries.flatMap fun entry => entry.2.branches := by
  induction entries with
  | nil => rw [branchesIn, List.flatMap_nil]
  | cons entry rest ih => rw [branchesIn, ih, List.flatMap_cons]

end Outline

namespace Document

variable {κ ν : Type} [Document ν κ]

/-- The entries of a container, each at its own position. -/
def entriesAt (place : Place ν) : List (Option κ × Place ν) :=
  ((children? place.2).getD []).zipIdx.map fun child =>
    (child.1.1, place.1 ++ [child.2], child.1.2)

/-- The containers from a node on, each before those inside it. -/
def containersFrom (position : Position) (node : ν) : List (Place ν) :=
  ((outline node).placed position).branches.map Prod.fst

theorem branches_placed_leaf {node : ν} (h : children? node = none) (position : Position) :
    ((outline node).placed position).branches = [] := by
  rw [outline_eq_leaf h, Outline.placed, Outline.branches]

theorem branches_placed_container {node : ν} {children : List (Option κ × ν)}
    (h : children? node = some children) (position : Position) :
    ((outline node).placed position).branches =
      ((position, node), entriesAt (position, node)) :: children.zipIdx.flatMap fun child =>
        ((outline child.1.2).placed (position ++ [child.2])).branches := by
  rw [outline_eq_branch h, Outline.placed, Outline.branches, Outline.branchesIn_eq,
    Outline.entriesPlaced_eq, List.zipIdx_map, entriesAt, h]
  simp only [List.map_map, List.flatMap_map, Function.comp_def, Prod.map, id, Outline.root_placed,
    root_outline, Option.getD_some]

theorem containersFrom_leaf {node : ν} (h : children? node = none) (position : Position) :
    containersFrom position node = [] := by
  rw [containersFrom, branches_placed_leaf h, List.map_nil]

theorem containersFrom_container {node : ν} {children : List (Option κ × ν)}
    (h : children? node = some children) (position : Position) :
    containersFrom position node = (position, node) :: children.zipIdx.flatMap fun child =>
      containersFrom (position ++ [child.2]) child.1.2 := by
  rw [containersFrom, branches_placed_container h, List.map_cons, List.map_flatMap]
  rfl

/-- A search asks each container about its own entries. -/
theorem branches_placed (position : Position) (node : ν) :
    ((outline node).placed position).branches =
      (containersFrom position node).map fun place => (place, entriesAt place) := by
  induction node using induction generalizing position with
  | step node ih =>
    cases h : children? node with
    | none => rw [branches_placed_leaf h, containersFrom_leaf h, List.map_nil]
    | some children =>
      rw [branches_placed_container h, containersFrom_container h, List.map_cons, List.map_flatMap]
      congr 1
      apply List.flatMap_congr
      intro child hchild
      exact ih children h child.1 (List.fst_mem_of_mem_zipIdx hchild) (position ++ [child.2])

/-- **The containers from a node on are those at the positions below it.** -/
theorem mem_containersFrom {position : Position} {node : ν} {place : Place ν} :
    place ∈ containersFrom position node ↔
      ∃ below, place.1 = position ++ below ∧ nodeAt? node below = some place.2 ∧
        (children? place.2).isSome := by
  induction node using induction generalizing position with
  | step node ih =>
    cases h : children? node with
    | none =>
      rw [containersFrom_leaf h]
      refine iff_of_false List.not_mem_nil ?_
      rintro ⟨_ | ⟨index, below⟩, -, hnode, hchildren⟩
      · obtain rfl := Option.some.inj hnode
        rw [h] at hchildren
        cases hchildren
      · rw [nodeAt?, h] at hnode
        cases hnode
    | some children =>
      rw [containersFrom_container h, List.mem_cons, List.mem_flatMap]
      constructor
      · rintro (rfl | ⟨⟨child, index⟩, hchild, hplace⟩)
        · exact ⟨[], (List.append_nil _).symm, rfl, by rw [h]; rfl⟩
        · obtain ⟨below, hposition, hnode, hcontainer⟩ :=
            (ih children h child (List.fst_mem_of_mem_zipIdx hchild)).1 hplace
          refine ⟨index :: below, by simpa using hposition, ?_, hcontainer⟩
          rw [nodeAt?, h, Option.bind_some, List.mk_mem_zipIdx_iff_getElem?.1 hchild]
          exact hnode
      · rintro ⟨_ | ⟨index, below⟩, hposition, hnode, hcontainer⟩
        · exact .inl (Prod.ext (hposition.trans (List.append_nil _)) (Option.some.inj hnode).symm)
        · rw [nodeAt?, h, Option.bind_some, Option.bind_eq_some_iff] at hnode
          obtain ⟨child, hchild, hnode⟩ := hnode
          refine .inr ⟨(child, index), List.mk_mem_zipIdx_iff_getElem?.2 hchild, ?_⟩
          exact (ih children h child (List.mem_of_getElem? hchild)).2
            ⟨below, by simpa using hposition, hnode, hcontainer⟩

theorem pairwise_zipIdx {α : Type} (entries : List α) :
    entries.zipIdx.Pairwise fun entry later => entry.2 < later.2 := by
  rw [← List.pairwise_map, List.zipIdx_map_snd]
  exact List.pairwise_lt_range'

/-- **They stand in the order of their positions**, an outer one before those inside it. -/
theorem pairwise_containersFrom (position : Position) (node : ν) :
    (containersFrom position node).Pairwise fun a b => a.1 < b.1 := by
  induction node using induction generalizing position with
  | step node ih =>
    cases h : children? node with
    | none =>
      rw [containersFrom_leaf h]
      exact .nil
    | some children =>
      have hbelow : ∀ child : (Option κ × ν) × ℕ,
          ∀ place ∈ containersFrom (position ++ [child.2]) child.1.2,
            ∃ below, place.1 = position ++ child.2 :: below := by
        intro child place hplace
        obtain ⟨below, hposition, -⟩ := mem_containersFrom.1 hplace
        exact ⟨below, by simpa using hposition⟩
      rw [containersFrom_container h, List.pairwise_cons, List.pairwise_flatMap]
      refine ⟨fun place hplace => ?_, fun child hchild => ?_, ?_⟩
      · obtain ⟨child, -, hplace⟩ := List.mem_flatMap.1 hplace
        obtain ⟨below, hposition⟩ := hbelow child place hplace
        rw [hposition]
        conv_lhs => rw [← List.append_nil position]
        exact List.append_left_lt (List.nil_lt_cons _ _)
      · exact ih children h child.1 (List.fst_mem_of_mem_zipIdx hchild) _
      · -- of two entries, the index decides, whatever comes behind it
        refine (pairwise_zipIdx children).imp fun {child child'} hlt => ?_
        intro place hplace place' hplace'
        obtain ⟨below, hposition⟩ := hbelow child place hplace
        obtain ⟨below', hposition'⟩ := hbelow child' place' hplace'
        rw [hposition, hposition']
        exact List.append_left_lt (List.cons_lt_cons_iff.2 (.inl hlt))

end Document

end KeyedFilter
