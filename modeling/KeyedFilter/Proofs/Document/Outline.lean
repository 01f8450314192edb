import KeyedFilter.Document.Outline
import KeyedFilter.Request.Discovery

/-!
# Searches in outlines

A search visits the containers of a document in pre-order and asks about the entries of each. So it
is a run through a list: the containers, each with its entries, an outer one before those inside it.

* `Outline.branches`: that list.
* `Outline.collect_eq_keepAccepted`: the search as a run through it.
* `Outline.containers_eq`: what a comparator without a state finds.
-/

namespace KeyedFilter.Outline

variable {κ ν σ : Type}

/-- A container, with the key and the topmost node of each entry. -/
abbrev Branch (κ ν : Type) := ν × List (Option κ × ν)

mutual

/-- The containers, each before those inside it. -/
def branches : Outline κ ν → List (Branch κ ν)
  | leaf _ => []
  | branch node entries =>
    (node, entries.map fun entry => (entry.1, entry.2.root)) :: branchesIn entries

/-- The containers inside a list of entries. -/
def branchesIn : List (Option κ × Outline κ ν) → List (Branch κ ν)
  | [] => []
  | (_, child) :: rest => branches child ++ branchesIn rest

end

/-- Asks about the entries of each container in turn and keeps the containers with an accepted
one. -/
def keepAccepted (accepts : Option κ → ν → ν → StateM σ Bool) :
    List (Branch κ ν) → StateM σ (List ν)
  | [] => pure []
  | (node, entries) :: rest => do
    let hit ← entries.anyM fun entry => accepts entry.1 entry.2 node
    let others ← keepAccepted accepts rest
    pure (if hit then node :: others else others)

variable (accepts : Option κ → ν → ν → StateM σ Bool)

theorem keepAccepted_append (before after : List (Branch κ ν)) :
    keepAccepted accepts (before ++ after) = (do
      let first ← keepAccepted accepts before
      let others ← keepAccepted accepts after
      pure (first ++ others)) := by
  induction before with
  | nil => simp [keepAccepted]
  | cons branch rest ih =>
    obtain ⟨node, entries⟩ := branch
    simp only [List.cons_append, keepAccepted, ih, bind_assoc, pure_bind]
    congr 1
    funext hit
    cases hit <;> rfl

theorem asksFor_eq_anyM (node : ν) (entries : List (Option κ × Outline κ ν)) :
    asksFor accepts node entries =
      (entries.map fun entry => (entry.1, entry.2.root)).anyM
        fun entry => accepts entry.1 entry.2 node := by
  induction entries with
  | nil => rfl
  | cons entry rest ih =>
    obtain ⟨key, child⟩ := entry
    rw [asksFor, List.map_cons, List.anyM, ih]
    congr 1
    funext hit
    cases hit <;> rfl

mutual

/-- **A search asks one container after the other**, in pre-order. -/
theorem collect_eq_keepAccepted (outline : Outline κ ν) :
    outline.collect accepts = keepAccepted accepts outline.branches := by
  cases outline with
  | leaf => rw [collect, branches, keepAccepted]
  | branch node entries =>
    rw [collect, branches, keepAccepted, asksFor_eq_anyM, collectEntries_eq_keepAccepted entries]

theorem collectEntries_eq_keepAccepted (entries : List (Option κ × Outline κ ν)) :
    collectEntries accepts entries = keepAccepted accepts (branchesIn entries) := by
  cases entries with
  | nil => rw [collectEntries, branchesIn, keepAccepted]
  | cons entry rest =>
    obtain ⟨key, child⟩ := entry
    rw [collectEntries, branchesIn, keepAccepted_append, collect_eq_keepAccepted child,
      collectEntries_eq_keepAccepted rest]

end

/-! ### Comparators without a state -/

theorem keepAccepted_pure (accepts : Option κ → ν → Bool) (branches : List (Branch κ ν)) :
    keepAccepted (fun key child _ => (pure (accepts key child) : StateM σ Bool)) branches =
      pure ((branches.filter fun branch =>
        branch.2.any fun entry => accepts entry.1 entry.2).map Prod.fst) := by
  have hany (entries : List (Option κ × ν)) :
      entries.anyM (fun entry => (pure (accepts entry.1 entry.2) : StateM σ Bool)) =
        pure (entries.any fun entry => accepts entry.1 entry.2) := by
    induction entries with
    | nil => rfl
    | cons entry rest ih =>
      rw [List.anyM, ih, pure_bind, List.any_cons]
      cases accepts entry.1 entry.2 <;> rfl
  induction branches with
  | nil => rfl
  | cons branch rest ih =>
    obtain ⟨node, entries⟩ := branch
    rw [keepAccepted, hany, ih, pure_bind, pure_bind, List.filter_cons]
    cases entries.any fun entry => accepts entry.1 entry.2 <;> rfl

/-- **What is found without a state**: the containers with an accepted entry, in pre-order. -/
theorem containers_eq (accepts : Option κ → ν → Bool) (outline : Outline κ ν) :
    outline.containers accepts = (outline.branches.filter fun branch =>
      branch.2.any fun entry => accepts entry.1 entry.2).map Prod.fst := by
  have hsearch := collect_eq_keepAccepted
    (fun key child _ => (pure (accepts key child) : StateM Unit Bool)) outline
  rw [keepAccepted_pure] at hsearch
  rw [containers, hsearch]
  rfl

end KeyedFilter.Outline
