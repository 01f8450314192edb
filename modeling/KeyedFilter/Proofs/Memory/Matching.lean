import Mathlib.Data.List.Basic
import KeyedFilter.Memory

/-!
# Which entities match

Constraints are evaluated one after the other, up to the first that is not definitely true. An
entity stops the walk when that one cannot be evaluated, and the first entity that does so is what
the whole query fails with; without one, the query finds the entities of which everything is true.

* `StopsWith`, `Meets`: the two ends of a walk that matter.
* `matching_eq_error`, `matching_eq_ok`: what a query finds.
-/

namespace KeyedFilter.Memory

variable {ε : Type} [HasFields ε]

/-- Walking the constraints in order, the entity meets this error before any constraint that is not
definitely true of it. -/
def StopsWith (constraints : List Constraint) (entity : ε) (e : FilterError) : Prop :=
  ∃ front c rest, constraints = front ++ c :: rest ∧
    (∀ d ∈ front, d.holds (field entity d.field) = .ok true) ∧
    c.holds (field entity c.field) = .error e

/-- Every constraint is definitely true of the entity. -/
def Meets (constraints : List Constraint) (entity : ε) : Prop :=
  ∀ c ∈ constraints, c.holds (field entity c.field) = .ok true

/-- Everything that is asked of the entity is true: each constraint, and each test. -/
def selects (constraints : List Constraint) (tests : List (ε → Bool)) (entity : ε) : Bool :=
  constraints.all (fun c => decide (c.holds (field entity c.field) = .ok true)) &&
    tests.all fun test => test entity

theorem selects_eq_true_iff {constraints : List Constraint} {tests : List (ε → Bool)} {entity : ε} :
    selects constraints tests entity = true ↔
      Meets constraints entity ∧ ∀ test ∈ tests, test entity = true := by
  simp [selects, Meets]

theorem selects_eq_of_perm {constraints constraints' : List Constraint}
    (h : constraints.Perm constraints') (tests : List (ε → Bool)) :
    selects constraints tests = selects constraints' tests := by
  funext entity
  unfold selects
  rw [h.all_eq]

theorem stopsWith_cons_of_true {c : Constraint} {rest : List Constraint} {entity : ε}
    {e : FilterError} (h : c.holds (field entity c.field) = .ok true) :
    StopsWith (c :: rest) entity e ↔ StopsWith rest entity e := by
  constructor
  · rintro ⟨front, d, tail, hsplit, hfront, hd⟩
    cases front with
    | nil =>
      cases hsplit
      rw [h] at hd
      cases hd
    | cons c' front =>
      cases hsplit
      exact ⟨front, d, tail, rfl, fun x hx => hfront x (List.mem_cons_of_mem _ hx), hd⟩
  · rintro ⟨front, d, tail, rfl, hfront, hd⟩
    exact ⟨c :: front, d, tail, rfl, List.forall_mem_cons.2 ⟨h, hfront⟩, hd⟩

theorem stopsWith_cons_of_ne_true {c : Constraint} {rest : List Constraint} {entity : ε}
    {e : FilterError} (h : c.holds (field entity c.field) ≠ .ok true) :
    StopsWith (c :: rest) entity e ↔ c.holds (field entity c.field) = .error e := by
  constructor
  · rintro ⟨front, d, tail, hsplit, hfront, hd⟩
    cases front with
    | nil =>
      cases hsplit
      exact hd
    | cons c' front =>
      cases hsplit
      exact absurd (hfront _ List.mem_cons_self) h
  · intro hd
    exact ⟨[], c, rest, rfl, fun _ hx => (List.not_mem_nil hx).elim, hd⟩

theorem not_stopsWith_nil {entity : ε} {e : FilterError} : ¬ StopsWith [] entity e := by
  rintro ⟨front, c, rest, hsplit, -⟩
  simp at hsplit

theorem stopsWith_singleton_iff {c : Constraint} {entity : ε} {e : FilterError} :
    StopsWith [c] entity e ↔ c.holds (field entity c.field) = .error e := by
  by_cases h : c.holds (field entity c.field) = .ok true
  · rw [stopsWith_cons_of_true h, h]
    exact iff_of_false not_stopsWith_nil nofun
  · exact stopsWith_cons_of_ne_true h

/-- The walk of an entity ends with an error, with a constraint that is not true, or behind the last
constraint. -/
theorem satisfies_eq (constraints : List Constraint) (entity : ε) :
    (∀ e, satisfies constraints entity = .error e ↔ StopsWith constraints entity e) ∧
      (satisfies constraints entity = .ok true ↔ Meets constraints entity) := by
  -- only a constraint that is true lets the walk go on to the others
  induction constraints with
  | nil => simp [satisfies, not_stopsWith_nil, Meets]
  | cons c rest ih =>
    cases hc : c.holds (field entity c.field) with
    | error e =>
      have hne : c.holds (field entity c.field) ≠ .ok true := by simp [hc]
      simp [satisfies, hc, bind, Except.bind, stopsWith_cons_of_ne_true hne, Meets]
    | ok holds =>
      cases holds with
      | true =>
        simp only [satisfies, hc, bind, Except.bind, if_true, stopsWith_cons_of_true hc]
        refine ⟨ih.1, ih.2.trans ?_⟩
        simp [Meets, hc]
      | false =>
        have hne : c.holds (field entity c.field) ≠ .ok true := by simp [hc]
        simp [satisfies, hc, bind, Except.bind, pure, Except.pure, stopsWith_cons_of_ne_true hne,
          Meets]

theorem accepts_eq_error_iff {query : Query ε} {entity : ε} {e : FilterError} :
    query.accepts entity = .error e ↔ StopsWith query.constraints entity e := by
  rw [← (satisfies_eq query.constraints entity).1, Query.accepts]
  cases satisfies query.constraints entity <;> simp [Except.map]

/-- An entity that does not stop the walk is accepted when everything is true of it. -/
theorem accepts_of_not_stopsWith {query : Query ε} {entity : ε}
    (h : ∀ e, ¬ StopsWith query.constraints entity e) :
    query.accepts entity = .ok (selects query.constraints query.tests entity) := by
  have hspec := satisfies_eq query.constraints entity
  rw [Query.accepts]
  cases hwalk : satisfies query.constraints entity with
  | error e => exact absurd ((hspec.1 e).1 hwalk) (h e)
  | ok satisfied =>
    rw [Except.map, Except.ok.injEq, Bool.eq_iff_iff, selects_eq_true_iff, ← hspec.2, hwalk]
    simp

/-- If an entity stops the walk, one does so before all others. -/
theorem exists_first_stopsWith {constraints : List Constraint} {entities : List ε}
    (h : ∃ x ∈ entities, ∃ e, StopsWith constraints x e) :
    ∃ before entity after e, entities = before ++ entity :: after ∧
      (∀ x ∈ before, ∀ e', ¬ StopsWith constraints x e') ∧ StopsWith constraints entity e := by
  classical
  obtain ⟨x, hx, hstop⟩ := h
  cases hfind : entities.find? fun y => decide (∃ e, StopsWith constraints y e) with
  | none => exact absurd hstop (by simpa using List.find?_eq_none.1 hfind x hx)
  | some entity =>
    obtain ⟨hfirst, before, after, rfl, hbefore⟩ := List.find?_eq_some_iff_append.1 hfind
    obtain ⟨e, he⟩ := of_decide_eq_true hfirst
    exact ⟨before, entity, after, e, rfl, by simpa using hbefore, he⟩

/-- **The first entity that stops the walk is what a query fails with.** -/
theorem matching_eq_error {query : Query ε} {before after : List ε} {entity : ε} {e : FilterError}
    (hbefore : ∀ x ∈ before, ∀ e', ¬ StopsWith query.constraints x e')
    (h : StopsWith query.constraints entity e) :
    matching query (before ++ entity :: after) = .error e := by
  induction before with
  | nil =>
    rw [List.nil_append, matching, accepts_eq_error_iff.2 h]
    rfl
  | cons x before ih =>
    rw [List.forall_mem_cons] at hbefore
    cases hx : query.accepts x with
    | error e' => exact absurd (accepts_eq_error_iff.1 hx) (hbefore.1 e')
    | ok accepted =>
      rw [List.cons_append, matching, hx, ih hbefore.2]
      rfl

/-- **Without such an entity, a query finds those of which everything is true**, in their order. -/
theorem matching_eq_ok {query : Query ε} {entities : List ε}
    (h : ∀ x ∈ entities, ∀ e, ¬ StopsWith query.constraints x e) :
    matching query entities = .ok (entities.filter (selects query.constraints query.tests)) := by
  induction entities with
  | nil => rfl
  | cons x entities ih =>
    rw [List.forall_mem_cons] at h
    rw [matching, accepts_of_not_stopsWith h.1, ih h.2, List.filter_cons]
    rfl

end KeyedFilter.Memory
