import KeyedFilter.Proofs.Document.Position

/-!
# What a search asks

A search goes through the containers of a document in pre-order. It asks its comparator about the
entries of each one after the other and leaves off at the first that is accepted, which makes the
container a result. The comparator may change a state of its own with every answer, and nothing else
changes it; so the questions, the answers and the results are determined.

* `Outline.recorded`: the comparator that also writes down its answers.
* `Outline.Answers`: the answers are those of the comparator.
* `Outline.Rounds`: the questions are those of a search.
* `Document.edgesFrom`: all the questions that there are.
* `Document.collect_goes_in_preorder`: what a search asks and finds.
-/

namespace KeyedFilter

/-- Is the child accepted, under its key, in the container? -/
structure Question (κ ν : Type) where
  key : Option κ
  child : ν
  container : ν

namespace Outline

variable {κ ν σ : Type}

/-- The questions about the entries of a container. -/
def Branch.questions (branch : Branch κ ν) : List (Question κ ν) :=
  branch.2.map fun entry => ⟨entry.1, entry.2, branch.1⟩

/-- The comparator that also writes down what it is asked and what it answers. -/
def recorded (accepts : Option κ → ν → ν → StateM σ Bool) (key : Option κ) (child container : ν) :
    StateM (σ × List (Question κ ν × Bool)) Bool := fun (s, log) =>
  let (answer, s') := accepts key child container s
  (answer, s', log ++ [(⟨key, child, container⟩, answer)])

/-- The comparator gives these answers to these questions, each in the state that the one before has
left. -/
inductive Answers (accepts : Option κ → ν → ν → StateM σ Bool) :
    σ → List (Question κ ν × Bool) → σ → Prop
  | done {s} : Answers accepts s [] s
  | next {q answer s s₁ rest s'} :
      accepts q.key q.child q.container s = (answer, s₁) → Answers accepts s₁ rest s' →
      Answers accepts s ((q, answer) :: rest) s'

/-- The questions about one container: one after the other, up to the first that is accepted. The
last argument is whether one is. -/
inductive Round : List (Question κ ν) → List (Question κ ν × Bool) → Bool → Prop
  | exhausted : Round [] [] false
  | accepted {q rest} : Round (q :: rest) [(q, true)] true
  | passed {q rest answers hit} : Round rest answers hit →
      Round (q :: rest) ((q, false) :: answers) hit

/-- One round for each container. The results are the containers with an accepted entry. -/
inductive Rounds : List (Branch κ ν) → List (Question κ ν × Bool) → List ν → Prop
  | done : Rounds [] [] []
  | next {branch answers hit rest log found} :
      Round branch.questions answers hit → Rounds rest log found →
      Rounds (branch :: rest) (answers ++ log) (if hit then branch.1 :: found else found)

variable {accepts : Option κ → ν → ν → StateM σ Bool}

theorem Answers.append {s s₁ s₂ : σ} {log log' : List (Question κ ν × Bool)}
    (h : Answers accepts s log s₁) (h' : Answers accepts s₁ log' s₂) :
    Answers accepts s (log ++ log') s₂ := by
  induction h with
  | done => exact h'
  | next hask _ ih => exact .next hask (ih h')

/-! ### One container -/

/-- **A container is asked for in one round**, and it makes no difference to write the answers
down. -/
theorem exists_round (accepts : Option κ → ν → ν → StateM σ Bool) (branch : Branch κ ν) (s : σ) :
    ∃ answers hit s', Round branch.questions answers hit ∧ Answers accepts s answers s' ∧
      (branch.2.anyM fun entry => accepts entry.1 entry.2 branch.1) s = (hit, s') ∧
      ∀ log, (branch.2.anyM fun entry => recorded accepts entry.1 entry.2 branch.1) (s, log) =
        (hit, s', log ++ answers) := by
  obtain ⟨container, entries⟩ := branch
  induction entries generalizing s with
  | nil =>
    refine ⟨[], false, s, .exhausted, .done, rfl, fun log => ?_⟩
    rw [List.append_nil]
    rfl
  | cons entry rest ih =>
    obtain ⟨key, child⟩ := entry
    have hlog (log : List (Question κ ν × Bool)) : recorded accepts key child container (s, log) =
        ((accepts key child container s).1, (accepts key child container s).2,
          log ++ [(⟨key, child, container⟩, (accepts key child container s).1)]) := rfl
    rcases hask : accepts key child container s with ⟨_ | _, s₁⟩
    · obtain ⟨answers, hit, s', hround, hanswers, hrun, hrecorded⟩ := ih s₁
      refine ⟨(⟨key, child, container⟩, false) :: answers, hit, s', .passed hround,
        .next hask hanswers, ?_, fun log => ?_⟩
      · simp only [List.anyM, bind, StateT.bind, hask]
        exact hrun
      · rw [List.append_cons log]
        simp only [List.anyM, bind, StateT.bind, hlog, hask]
        exact hrecorded _
    · refine ⟨[(⟨key, child, container⟩, true)], true, s₁, .accepted, .next hask .done, ?_,
        fun log => ?_⟩
      · simp only [List.anyM, bind, StateT.bind, hask]
        rfl
      · simp only [List.anyM, bind, StateT.bind, hlog, hask]
        rfl

/-! ### One container after the other -/

/-- Asks about the entries of a container and adds it to what is found when one is accepted. -/
def examine (accepts : Option κ → ν → ν → StateM σ Bool) (found : List ν) (branch : Branch κ ν) :
    StateM σ (List ν) := do
  let hit ← branch.2.anyM fun entry => accepts entry.1 entry.2 branch.1
  pure (if hit then found ++ [branch.1] else found)

theorem foldlM_examine (accepts : Option κ → ν → ν → StateM σ Bool) (branches : List (Branch κ ν))
    (found : List ν) : branches.foldlM (examine accepts) found =
      (do let others ← keepAccepted accepts branches; pure (found ++ others)) := by
  induction branches generalizing found with
  | nil => simp [keepAccepted]
  | cons branch rest ih =>
    rw [List.foldlM_cons, examine, keepAccepted, bind_assoc, bind_assoc]
    congr 1
    funext hit
    cases hit <;>
      simp only [pure_bind, bind_assoc, ih, if_true, List.append_assoc, List.singleton_append,
        Bool.false_eq_true, if_false]

/-- **A search asks in one round for each container**, and it makes no difference to write the
answers down. -/
theorem exists_rounds (accepts : Option κ → ν → ν → StateM σ Bool) (branches : List (Branch κ ν))
    (s : σ) : ∃ log found s', Rounds branches log found ∧ Answers accepts s log s' ∧
      keepAccepted accepts branches s = (found, s') ∧
      ∀ before, keepAccepted (recorded accepts) branches (s, before) =
        (found, s', before ++ log) := by
  induction branches generalizing s with
  | nil =>
    refine ⟨[], [], s, .done, .done, rfl, fun before => ?_⟩
    rw [List.append_nil]
    rfl
  | cons branch rest ih =>
    obtain ⟨answers, hit, s₁, hround, hanswers, hrun, hrecorded⟩ := exists_round accepts branch s
    obtain ⟨log, found, s', hrounds, hrest, hfound, hlog⟩ := ih s₁
    refine ⟨answers ++ log, if hit then branch.1 :: found else found, s', .next hround hrounds,
      hanswers.append hrest, ?_, fun before => ?_⟩
    · simp only [keepAccepted, bind, StateT.bind, hrun, hfound]
      rfl
    · simp only [keepAccepted, bind, StateT.bind, hrecorded, hlog, List.append_assoc]
      rfl

/-- **Every result is found once**, at its place among the containers. -/
theorem Rounds.sublist {branches : List (Branch κ ν)} {log : List (Question κ ν × Bool)}
    {found : List ν} (h : Rounds branches log found) : found.Sublist (branches.map Prod.fst) := by
  induction h with
  | done => exact .slnil
  | @next _ _ hit _ _ _ _ _ ih =>
    cases hit with
    | false => exact ih.cons _
    | true => exact ih.cons_cons _

theorem Round.all_asked {questions : List (Question κ ν)} {answers : List (Question κ ν × Bool)}
    {hit : Bool} (h : Round questions answers hit) (hno : ∀ answer ∈ answers, answer.2 = false) :
    answers.map Prod.fst = questions := by
  induction h with
  | exhausted => rfl
  | accepted => cases hno _ List.mem_cons_self
  | passed _ ih => rw [List.map_cons, ih fun answer h => hno answer (List.mem_cons_of_mem _ h)]

/-- **Without an acceptance, every question is asked**. -/
theorem Rounds.all_asked {branches : List (Branch κ ν)} {log : List (Question κ ν × Bool)}
    {found : List ν} (h : Rounds branches log found) (hno : ∀ answer ∈ log, answer.2 = false) :
    log.map Prod.fst = branches.flatMap Branch.questions := by
  induction h with
  | done => rfl
  | next hround _ ih =>
    rw [List.map_append, List.flatMap_cons,
      hround.all_asked fun answer h => hno answer (List.mem_append_left _ h),
      ih fun answer h => hno answer (List.mem_append_right _ h)]

/-! ### Comparators that do not look at positions -/

variable {μ : Type}

/-- A container and its entries, with another node for each. -/
def Branch.map (f : μ → ν) (branch : Branch κ μ) : Branch κ ν :=
  (f branch.1, branch.2.map fun entry => (entry.1, f entry.2))

theorem anyM_map_entries (accepts : Option κ → ν → ν → StateM σ Bool) (f : μ → ν) (container : ν)
    (entries : List (Option κ × μ)) :
    ((entries.map fun entry => (entry.1, f entry.2)).anyM fun entry =>
        accepts entry.1 entry.2 container) =
      entries.anyM fun entry => accepts entry.1 (f entry.2) container := by
  induction entries with
  | nil => rfl
  | cons entry rest ih => rw [List.map_cons, List.anyM, List.anyM, ih]

theorem keepAccepted_map (accepts : Option κ → ν → ν → StateM σ Bool) (f : μ → ν)
    (branches : List (Branch κ μ)) :
    keepAccepted accepts (branches.map (Branch.map f)) =
      List.map f <$> keepAccepted (fun key child container => accepts key (f child) (f container))
        branches := by
  induction branches with
  | nil => rfl
  | cons branch rest ih =>
    rw [List.map_cons, Branch.map, keepAccepted, keepAccepted, anyM_map_entries, ih, map_bind]
    congr 1
    funext hit
    cases hit <;> simp

theorem map_root_entriesPlaced (position : Document.Position) (index : ℕ)
    (entries : List (Option κ × Outline κ ν)) :
    (entriesPlaced position index entries).map (fun entry => (entry.1, entry.2.root.2)) =
      entries.map fun entry => (entry.1, entry.2.root) := by
  induction entries generalizing index with
  | nil => rw [entriesPlaced, List.map_nil, List.map_nil]
  | cons entry rest ih => rw [entriesPlaced, List.map_cons, List.map_cons, ih, root_placed]

mutual

/-- Without the positions, the containers are those of the outline that they were marked in. -/
theorem branches_placed_map (position : Document.Position) : (outline : Outline κ ν) →
    (outline.placed position).branches.map (Branch.map Prod.snd) = outline.branches
  | leaf node => by rw [placed, branches, branches, List.map_nil]
  | branch node entries => by
    rw [placed, branches, branches, List.map_cons, branchesIn_placed_map position 0 entries,
      Branch.map, List.map_map]
    exact congrArg (fun rest => (node, rest) :: _) (map_root_entriesPlaced position 0 entries)

theorem branchesIn_placed_map (position : Document.Position) (index : ℕ) :
    (entries : List (Option κ × Outline κ ν)) →
    (branchesIn (entriesPlaced position index entries)).map (Branch.map Prod.snd) =
      branchesIn entries
  | [] => by rw [entriesPlaced, branchesIn, branchesIn, List.map_nil]
  | (key, child) :: rest => by
    rw [entriesPlaced, branchesIn, branchesIn, List.map_append, branches_placed_map _ child,
      branchesIn_placed_map position (index + 1) rest]

end

/-- **Whether nodes are told apart by their positions makes no difference** to a comparator that is
not told the positions. -/
theorem collect_placed (accepts : Option κ → ν → ν → StateM σ Bool) (outline : Outline κ ν)
    (position : Document.Position) :
    outline.collect accepts = List.map Prod.snd <$> (outline.placed position).collect
      fun key child container => accepts key child.2 container.2 := by
  rw [collect_eq_keepAccepted, collect_eq_keepAccepted, ← keepAccepted_map, branches_placed_map]

end Outline

/-! ### Documents -/

namespace Document

open Outline

variable {κ ν σ : Type} [Document ν κ]

/-- All questions about the containers from a node on. -/
def edgesFrom (position : Position) (node : ν) : List (Question κ (Place ν)) :=
  (containersFrom position node).flatMap fun place => Branch.questions (place, entriesAt place)

/-- The question is about an entry of a container, each node at its place in the document. -/
structure IsEdge (root : ν) (q : Question κ (Place ν)) : Prop where
  container_at : nodeAt? root q.container.1 = some q.container.2
  entry : ∃ children index, children? q.container.2 = some children ∧
    children[index]? = some (q.key, q.child.2) ∧ q.child.1 = q.container.1 ++ [index]

theorem mem_questions {place : Place ν} {q : Question κ (Place ν)} :
    q ∈ Branch.questions (place, entriesAt place) ↔ q.container = place ∧
      ∃ index, ((children? place.2).getD [])[index]? = some (q.key, q.child.2) ∧
        q.child.1 = place.1 ++ [index] := by
  obtain ⟨key, ⟨childPosition, child⟩, container⟩ := q
  rw [Branch.questions, entriesAt, List.map_map, List.mem_map]
  constructor
  · rintro ⟨⟨entry, index⟩, hentry, hq⟩
    cases hq
    exact ⟨rfl, index, List.mk_mem_zipIdx_iff_getElem?.1 hentry, rfl⟩
  · rintro ⟨rfl, index, hentry, hchild⟩
    obtain rfl : childPosition = container.1 ++ [index] := hchild
    exact ⟨((key, child), index), List.mk_mem_zipIdx_iff_getElem?.2 hentry, rfl⟩

/-- **There is a question for each entry of a container.** -/
theorem mem_edgesFrom_root {root : ν} {q : Question κ (Place ν)} :
    q ∈ edgesFrom [] root ↔ IsEdge root q := by
  rw [edgesFrom, List.mem_flatMap]
  constructor
  · rintro ⟨place, hplace, hq⟩
    obtain ⟨rfl, index, hentry, hchild⟩ := mem_questions.1 hq
    obtain ⟨below, hposition, hnode, hcontainer⟩ := mem_containersFrom.1 hplace
    obtain ⟨children, hchildren⟩ := Option.isSome_iff_exists.1 hcontainer
    rw [hchildren, Option.getD_some] at hentry
    exact ⟨by rw [hposition]; exact hnode, children, index, hchildren, hentry, hchild⟩
  · rintro ⟨hnode, children, index, hchildren, hentry, hchild⟩
    refine ⟨q.container, mem_containersFrom.2 ⟨_, rfl, hnode, by rw [hchildren]; rfl⟩, ?_⟩
    exact mem_questions.2 ⟨rfl, index, by rw [hchildren]; exact hentry, hchild⟩

/-- **No two questions are about the same entry.** -/
theorem nodup_edgesFrom (position : Position) (node : ν) :
    ((edgesFrom position node).map fun q => q.child.1).Nodup := by
  rw [List.Nodup, List.pairwise_map, edgesFrom, List.pairwise_flatMap]
  constructor
  · intro place _
    rw [Branch.questions, entriesAt, List.map_map, List.pairwise_map]
    refine (pairwise_zipIdx _).imp fun hlt heq => ?_
    exact hlt.ne (List.append_singleton_inj.1 heq).2
  · refine (pairwise_containersFrom position node).imp fun hlt q hq q' hq' heq => ?_
    obtain ⟨-, index, -, hchild⟩ := mem_questions.1 hq
    obtain ⟨-, index', -, hchild'⟩ := mem_questions.1 hq'
    rw [hchild, hchild'] at heq
    exact hlt.ne (List.append_singleton_inj.1 heq).1

/-- **A search is a run through the containers in pre-order.** They are the nodes with entries, at
all positions and in the order of positions. A search examines each of them, whatever was found
before; it asks about the entries in order up to the first that is accepted, each time with the
state that the last answer has left; and the containers with an accepted entry are the results.
Without an acceptance it asks about each entry of the document once. All this holds whether or not
the comparator is told the positions. -/
theorem collect_goes_in_preorder (root : ν) :
    (containersFrom [] root).Pairwise (fun outer inner => outer.1 < inner.1) ∧
    (∀ place, place ∈ containersFrom [] root ↔
      nodeAt? root place.1 = some place.2 ∧ (children? place.2).isSome) ∧
    ((edgesFrom [] root).map fun q => q.child.1).Nodup ∧
    (∀ q, q ∈ edgesFrom [] root ↔ IsEdge root q) ∧
    (∀ accepts : Option κ → Place ν → Place ν → StateM σ Bool,
      ((outline root).placed []).collect accepts = (containersFrom [] root).foldlM
        (fun found place => examine accepts found (place, entriesAt place)) [] ∧
      ∀ s, ∃ log found s',
        ((outline root).placed []).collect accepts s = (found, s') ∧
        (∀ before, ((outline root).placed []).collect (recorded accepts) (s, before) =
          (found, s', before ++ log)) ∧
        Rounds ((containersFrom [] root).map fun place => (place, entriesAt place)) log found ∧
        Answers accepts s log s' ∧ found.Sublist (containersFrom [] root) ∧
        ((∀ answer ∈ log, answer.2 = false) → log.map Prod.fst = edgesFrom [] root)) ∧
    ∀ accepts : Option κ → ν → ν → StateM σ Bool,
      (outline root).collect accepts = List.map Prod.snd <$> ((outline root).placed []).collect
        fun key child container => accepts key child.2 container.2 := by
  refine ⟨pairwise_containersFrom [] root, fun place => ?_, nodup_edgesFrom [] root,
    fun q => mem_edgesFrom_root, fun accepts => ⟨?_, fun s => ?_⟩,
    fun accepts => collect_placed accepts (outline root) []⟩
  · rw [mem_containersFrom]
    exact ⟨fun ⟨below, hposition, h⟩ => by rw [hposition]; exact h, fun h => ⟨place.1, rfl, h⟩⟩
  · have hfold := foldlM_examine accepts
      ((containersFrom [] root).map fun place => (place, entriesAt place)) []
    rw [List.foldlM_map] at hfold
    rw [hfold, collect_eq_keepAccepted, branches_placed]
    simp
  · obtain ⟨log, found, s', hrounds, hanswers, hrun, hlog⟩ := exists_rounds accepts
      ((containersFrom [] root).map fun place => (place, entriesAt place)) s
    simp only [collect_eq_keepAccepted, branches_placed]
    refine ⟨log, found, s', hrun, hlog, hrounds, hanswers, ?_, fun hno => ?_⟩
    · simpa [Function.comp_def] using hrounds.sublist
    · rw [hrounds.all_asked hno, List.flatMap_map]
      rfl

end Document

end KeyedFilter
