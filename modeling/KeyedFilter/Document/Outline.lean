/-!
# Outlines of documents

What a search needs to know of a document: which nodes are containers, and under which keys they
hold their children. Children of a sequence have no key. JSON and YAML trees both have an outline,
so that one search serves both.

* `Outline.collect`: the containers with a child that a comparator accepts.
* `Outline.withPaths`: the outline with every node marked by its path.

The comparator may have a state of its own. A container asks it about its direct children in order
and stops at the first acceptance; containers are visited before what they contain.
-/

namespace KeyedFilter

/-- The nodes of a document, `ν` being what is known of a node and `κ` the keys. -/
inductive Outline (κ ν : Type) where
  | leaf (node : ν)
  | branch (node : ν) (entries : List (Option κ × Outline κ ν))

/-- One step from a container to a child. -/
inductive Step (κ : Type) where
  | key (k : κ)
  | item (index : Nat)

namespace Outline

variable {κ ν σ : Type}

/-- What is known of the topmost node. -/
def root : Outline κ ν → ν
  | leaf node => node
  | branch node _ => node

/-- The same outline with another topmost node. -/
def setRoot (node : ν) : Outline κ ν → Outline κ ν
  | leaf _ => leaf node
  | branch _ entries => branch node entries

/-- Asks about the entries in order, until one is accepted. -/
def asksFor (accepts : Option κ → ν → ν → StateM σ Bool) (container : ν) :
    List (Option κ × Outline κ ν) → StateM σ Bool
  | [] => pure false
  | (key, child) :: rest => do
    if ← accepts key child.root container then pure true else asksFor accepts container rest

mutual

/-- The containers with an accepted child, each before those inside it. -/
def collect (accepts : Option κ → ν → ν → StateM σ Bool) : Outline κ ν → StateM σ (List ν)
  | leaf _ => pure []
  | branch node entries => do
    let hit ← asksFor accepts node entries
    let inside ← collectEntries accepts entries
    pure (if hit then node :: inside else inside)

/-- The containers with an accepted child inside a list of entries. -/
def collectEntries (accepts : Option κ → ν → ν → StateM σ Bool) :
    List (Option κ × Outline κ ν) → StateM σ (List ν)
  | [] => pure []
  | (_, child) :: rest => do
    let first ← collect accepts child
    let others ← collectEntries accepts rest
    pure (first ++ others)

end

/-- The step to the entry at an index. -/
def stepTo (key : Option κ) (index : Nat) : Step κ :=
  key.elim (.item index) .key

mutual

/-- Marks every node with its path below `path`. -/
def withPathsBelow (path : List (Step κ)) : Outline κ ν → Outline κ (List (Step κ) × ν)
  | leaf node => leaf (path, node)
  | branch node entries => branch (path, node) (entriesWithPaths path 0 entries)

/-- Marks the nodes of the entries from an index on. -/
def entriesWithPaths (path : List (Step κ)) (index : Nat) :
    List (Option κ × Outline κ ν) → List (Option κ × Outline κ (List (Step κ) × ν))
  | [] => []
  | (key, child) :: rest =>
    (key, withPathsBelow (path ++ [stepTo key index]) child) ::
      entriesWithPaths path (index + 1) rest

end

/-- Marks every node with its path from the top. -/
def withPaths (outline : Outline κ ν) : Outline κ (List (Step κ) × ν) :=
  withPathsBelow [] outline

end Outline

end KeyedFilter
