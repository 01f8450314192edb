import KeyedFilter.Proofs.Memory.Matching
import KeyedFilter.Proofs.Predicate.Outcome
import KeyedFilter.Proofs.StableSort
import KeyedFilter.Scalar.Conversion

/-!
# A predicate and its negation

Two queries that ask for a predicate and for its negation fail on the same entities, so both fail
with one error or both are answered. The answers hold the entities of which the relation is true and
those of which it is false; what is left out of both are those of which it is unknown. Entities are
told apart by their positions in the source, as equal ones may stand there more than once.

* `PositionsOf`: the positions of the entities with a property.
* `exists_positions`: what is kept and sorted, by positions.
* `negation_partitions_known`: the two answers share no position and miss only the unknown ones.
-/

namespace KeyedFilter.Memory

variable {ε : Type}

/-! ### Positions -/

/-- The positions are those of the entities with a property, each once. -/
def PositionsOf (entities : List ε) (property : ε → Prop) (positions : List ℕ) : Prop :=
  positions.Nodup ∧ ∀ i, i ∈ positions ↔ ∃ x, entities[i]? = some x ∧ property x

theorem map_fst_filter_zipIdx {α : Type} (l : List α) (p : α → Bool) :
    (l.zipIdx.filter fun entry => p entry.1).map Prod.fst = l.filter p := by
  conv_rhs => rw [← List.zipIdx_map_fst 0 l, List.filter_map]
  rfl

/-- The positions of what all entities have are all positions. -/
theorem PositionsOf.perm_range {entities : List ε} {property : ε → Prop} {positions : List ℕ}
    (h : PositionsOf entities property positions) (hall : ∀ x, property x) :
    positions.Perm (List.range entities.length) := by
  refine (List.perm_ext_iff_of_nodup h.1 List.nodup_range).2 fun i => ?_
  rw [h.2, List.mem_range]
  constructor
  · rintro ⟨x, hx, -⟩
    exact (List.getElem?_eq_some_iff.1 hx).1
  · intro hi
    exact ⟨entities[i], List.getElem?_eq_getElem hi, hall _⟩

variable [HasFields ε]

/-- What a sort puts out is what stands at some positions. -/
theorem exists_positions (clauses : List SortClause) (entities : List ε) (p : ε → Bool) :
    ∃ positions, PositionsOf entities (p · = true) positions ∧
      sort clauses (entities.filter p) = positions.filterMap (entities[·]?) := by
  -- the entities are sorted together with their positions
  let kept := entities.zipIdx.filter fun entry => p entry.1
  let placed := kept.mergeSort fun a b => SortClause.compareBy clauses a.1 b.1 != .gt
  have hperm : placed.Perm kept := List.mergeSort_perm _ _
  have hmem : ∀ entry, entry ∈ placed ↔ entities[entry.2]? = some entry.1 ∧ p entry.1 = true := by
    intro entry
    rw [hperm.mem_iff, List.mem_filter, List.mem_zipIdx_iff_getElem?]
  refine ⟨placed.map Prod.snd, ⟨?_, fun i => ?_⟩, ?_⟩
  · refine (hperm.map Prod.snd).nodup_iff.2 ?_
    exact (nodup_snd_zipIdx entities).sublist (List.filter_sublist.map _)
  · simp only [List.mem_map, Prod.exists, exists_eq_right, hmem]
  · have hsorted : placed.map Prod.fst = sort clauses (entities.filter p) := by
      rw [sort, ← map_fst_filter_zipIdx]
      exact List.map_mergeSort fun _ _ _ _ => rfl
    have hentry : placed.filterMap ((entities[·]?) ∘ Prod.snd) = placed.filterMap (some ∘ Prod.fst) :=
      List.filterMap_congr fun entry hentry => ((hmem entry).1 hentry).1
    rw [← hsorted, List.filterMap_map, hentry, List.filterMap_eq_map]

/-! ### Queries for one predicate -/

section

variable (name : String) (relation : Relation) (negated : Bool) (operand : Scalar)

/-- The query for one predicate on one field. -/
def askFor : Query ε :=
  ({} : Query ε).constrain ⟨name, ⟨relation, negated⟩, operand⟩

variable {name relation negated operand}

theorem stopsWith_askFor_iff {entity : ε} {e : FilterError} :
    StopsWith (askFor (ε := ε) name relation negated operand).constraints entity e ↔
      relation.evaluate name (field entity name) operand = .error e := by
  show StopsWith [⟨name, ⟨relation, negated⟩, operand⟩] entity e ↔ _
  rw [stopsWith_singleton_iff]
  exact Predicate.evaluate_eq_error_iff

theorem selects_askFor_iff {entity : ε} :
    selects (askFor (ε := ε) name relation negated operand).constraints [] entity = true ↔
      relation.evaluate name (field entity name) operand = .ok (some !negated) := by
  rw [selects_eq_true_iff, ← Predicate.evaluate_eq_true_iff]
  simp [Meets, askFor, Query.constrain, Constraint.holds]

variable {entities : List ε} (clauses : List SortClause)

/-- The first entity on which the relation fails decides, whether it is negated or not. -/
theorem exists_select_error
    (h : ∃ x ∈ entities, ∃ e, relation.evaluate name (field x name) operand = .error e) :
    ∃ e, (∃ x ∈ entities, relation.evaluate name (field x name) operand = .error e) ∧
      ∀ negated, select entities clauses (askFor name relation negated operand) = .error e := by
  have hstops : ∃ x ∈ entities, ∃ e,
      StopsWith (askFor (ε := ε) name relation false operand).constraints x e := by
    simpa only [stopsWith_askFor_iff] using h
  obtain ⟨before, entity, after, e, rfl, hbefore, hstop⟩ := exists_first_stopsWith hstops
  simp only [stopsWith_askFor_iff] at hbefore hstop
  refine ⟨e, ⟨entity, by simp, hstop⟩, fun negated => ?_⟩
  rw [select, matching_eq_error (fun x hx e' => ?_) (stopsWith_askFor_iff.2 hstop)]
  · rfl
  · rw [stopsWith_askFor_iff]
    exact hbefore x hx e'

theorem exists_select_ok
    (h : ∀ x ∈ entities, ∀ e, relation.evaluate name (field x name) operand ≠ .error e)
    (negated : Bool) :
    ∃ positions,
      PositionsOf entities
        (fun x => relation.evaluate name (field x name) operand = .ok (some !negated)) positions ∧
      select entities clauses (askFor name relation negated operand) =
        .ok (positions.filterMap (entities[·]?)) := by
  have hmatching : matching (askFor name relation negated operand) entities = _ :=
    matching_eq_ok fun x hx e => by
      rw [stopsWith_askFor_iff]
      exact h x hx e
  obtain ⟨positions, hpositions, hsort⟩ := exists_positions clauses entities
    (selects (askFor (ε := ε) name relation negated operand).constraints [])
  simp only [selects_askFor_iff] at hpositions
  refine ⟨positions, hpositions, ?_⟩
  rw [select, hmatching, ← hsort]
  rfl

/-- Positions with two outcomes are disjoint, and together those of the known entities. -/
theorem PositionsOf.append_known {hits misses : List ℕ}
    (hanswered : ∀ x ∈ entities, ∀ e, relation.evaluate name (field x name) operand ≠ .error e)
    (hhits : PositionsOf entities
      (fun x => relation.evaluate name (field x name) operand = .ok (some true)) hits)
    (hmisses : PositionsOf entities
      (fun x => relation.evaluate name (field x name) operand = .ok (some false)) misses) :
    PositionsOf entities (fun x => ¬ relation.Unknown (field x name) operand) (hits ++ misses) := by
  refine ⟨List.nodup_append.2 ⟨hhits.1, hmisses.1, ?_⟩, fun i => ?_⟩
  · rintro i hi j hj rfl
    obtain ⟨x, hx, htrue⟩ := (hhits.2 i).1 hi
    obtain ⟨y, hy, hfalse⟩ := (hmisses.2 i).1 hj
    cases hx.symm.trans hy
    cases htrue.symm.trans hfalse
  · rw [List.mem_append, hhits.2, hmisses.2, ← exists_or]
    refine exists_congr fun x => ?_
    rw [← and_or_left, and_congr_right_iff]
    intro hx
    beta_reduce
    rw [← @Relation.evaluate_eq_unknown_iff relation name]
    cases houtcome : relation.evaluate name (field x name) operand with
    | error e => exact absurd houtcome (hanswered x (List.mem_of_getElem? hx) e)
    | ok outcome =>
      rcases outcome with _ | holds
      · simp
      · cases holds <;> simp

/-- If the relation fails on no entity, both queries are answered. -/
theorem exists_select_both
    (h : ∀ x ∈ entities, ∀ e, relation.evaluate name (field x name) operand ≠ .error e) :
    ∃ hits misses : List ℕ,
      select entities clauses (askFor name relation false operand) =
        .ok (hits.filterMap (entities[·]?)) ∧
      select entities clauses (askFor name relation true operand) =
        .ok (misses.filterMap (entities[·]?)) ∧
      PositionsOf entities
        (fun x => relation.evaluate name (field x name) operand = .ok (some true)) hits ∧
      PositionsOf entities
        (fun x => relation.evaluate name (field x name) operand = .ok (some false)) misses ∧
      PositionsOf entities (fun x => ¬ relation.Unknown (field x name) operand)
        (hits ++ misses) := by
  obtain ⟨hits, hhits, hfalse⟩ := exists_select_ok clauses h false
  obtain ⟨misses, hmisses, htrue⟩ := exists_select_ok clauses h true
  exact ⟨hits, misses, hfalse, htrue, hhits, hmisses, hhits.append_known h hmisses⟩

end

/-- **A predicate and its negation partition the entities of which the outcome is known.** Either
both queries fail with the same error, that of an entity on which the relation fails, or both are
answered, with the entities of which the relation is true and with those of which it is false; no
position is in both answers, and in none are those of which it is unknown. A test for blank or null
is known of every entity. -/
theorem negation_partitions_known (entities : List ε) (clauses : List SortClause) (name : String)
    (relation : Relation) (operand : Scalar) :
    let outcome := fun x : ε => relation.evaluate name (field x name) operand
    let answer := fun negated => select entities clauses
      (({} : Query ε).constrain ⟨name, ⟨relation, negated⟩, operand⟩)
    (∀ x, outcome x = .ok none ↔ relation.Unknown (field x name) operand) ∧
    ((∃ e, (∃ x ∈ entities, outcome x = .error e) ∧ answer false = .error e ∧
        answer true = .error e) ∨
      ∃ hits misses : List ℕ, answer false = .ok (hits.filterMap (entities[·]?)) ∧
        answer true = .ok (misses.filterMap (entities[·]?)) ∧
        PositionsOf entities (outcome · = .ok (some true)) hits ∧
        PositionsOf entities (outcome · = .ok (some false)) misses ∧
        PositionsOf entities (fun x => ¬ relation.Unknown (field x name) operand)
          (hits ++ misses)) ∧
    (relation = .blank ∨ relation = .equals ∧ operand = .null →
      ∃ hits misses : List ℕ, answer false = .ok (hits.filterMap (entities[·]?)) ∧
        answer true = .ok (misses.filterMap (entities[·]?)) ∧
        (hits ++ misses).Perm (List.range entities.length)) := by
  intro outcome answer
  refine ⟨fun x => Relation.evaluate_eq_unknown_iff, ?_, fun hknown => ?_⟩
  · by_cases hfails : ∃ x ∈ entities, ∃ e, outcome x = .error e
    · obtain ⟨e, hentity, herror⟩ := exists_select_error clauses hfails
      exact .inl ⟨e, hentity, herror false, herror true⟩
    · push Not at hfails
      exact .inr (exists_select_both clauses hfails)
  · have hevaluate : ∀ x, ∃ holds, outcome x = .ok (some holds) := fun x =>
      Relation.evaluate_known hknown
    have hanswered : ∀ x ∈ entities, ∀ e, outcome x ≠ .error e := by
      intro x _ e
      obtain ⟨holds, hholds⟩ := hevaluate x
      simp [hholds]
    have hall : ∀ x : ε, ¬ relation.Unknown (field x name) operand := by
      intro x hunknown
      obtain ⟨holds, hholds⟩ := hevaluate x
      cases hholds.symm.trans (Relation.evaluate_eq_unknown_iff.2 hunknown)
    obtain ⟨hits, misses, hfalse, htrue, -, -, hpositions⟩ := exists_select_both clauses hanswered
    exact ⟨hits, misses, hfalse, htrue, hpositions.perm_range hall⟩

/-- Three entities, one of them without a name, are split by whether the name is blank. -/
theorem negation_partitions_known_names :
    let rows : List Row := [⟨[("name", .string "")]⟩, ⟨[("name", .string "lamp")]⟩, ⟨[]⟩]
    let answer := fun negated => select rows [⟨"name", .descending⟩]
      (({} : Query Row).constrain ⟨"name", ⟨.blank, negated⟩, .null⟩)
    (Relation.blank = .blank ∨ Relation.blank = .equals ∧ Scalar.null = .null) ∧
    ∃ hits misses : List ℕ, answer false = .ok (hits.filterMap (rows[·]?)) ∧
      answer true = .ok (misses.filterMap (rows[·]?)) ∧
      (hits ++ misses).Perm (List.range 3) := by
  intro rows answer
  exact ⟨.inl rfl,
    (negation_partitions_known rows [⟨"name", .descending⟩] "name" .blank .null).2.2 (.inl rfl)⟩

end KeyedFilter.Memory
