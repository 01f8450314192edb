import KeyedFilter.Proofs.FilterPlan

/-!
# Which filters are refused, and how constraints are grouped

A request has a plan unless one of its filters is refused, and then it is refused for the first of
them. The constraints of a plan are those of the filters, grouped by field: the fields stand in the
order of their first appearance, and the constraints on a field in the order of the filters.

* `Constraint.Refused`, `Constraint.ReadAs`: what can become of a filter.
* `Constraint.groupByField_eq_mergeSort`: grouping is a stable sort.
* `FilterPlan.ofFilters_outcome`: the first refusal, or the plan.
-/

namespace KeyedFilter

namespace Constraint

/-- A filter is refused for its key, if that cannot be read, or else for its operand, if that is of
a wrong type for the predicate of the key. -/
inductive Refused (fields : List String) (filter : String × Scalar) (e : FilterError) : Prop where
  | key (h : FilterKey.parse fields filter.1 = .error e)
  | operand (key : FilterKey) (hkey : FilterKey.parse fields filter.1 = .ok key)
      (h : key.predicate.relation.checkOperandType key.field filter.2 = .error e)

variable {fields : List String} {filter : String × Scalar}

theorem ofKey_eq_error_iff {key : FilterKey} {operand : Scalar} {e : FilterError} :
    ofKey key operand = .error e ↔
      key.predicate.relation.checkOperandType key.field operand = .error e := by
  rw [ofKey]
  cases key.predicate.relation.checkOperandType key.field operand <;>
    simp [bind, Except.bind, pure, Except.pure]

theorem ofFilter_eq_error_iff {e : FilterError} :
    ofFilter fields filter = .error e ↔ Refused fields filter e := by
  rw [ofFilter]
  constructor
  · intro h
    cases hkey : FilterKey.parse fields filter.1 with
    | error e' =>
      rw [hkey] at h
      cases h
      exact .key hkey
    | ok key =>
      rw [hkey] at h
      exact .operand key hkey (ofKey_eq_error_iff.1 h)
  · rintro (hkey | ⟨key, hkey, hcheck⟩)
    · rw [hkey]
      rfl
    · rw [hkey]
      exact ofKey_eq_error_iff.2 hcheck

/-- A filter that is not refused is read. -/
theorem exists_ofFilter_iff :
    (∃ c, ofFilter fields filter = .ok c) ↔ ∀ e, ¬ Refused fields filter e := by
  simp only [← ofFilter_eq_error_iff]
  cases ofFilter fields filter <;> simp

/-- **Grouping constraints by field is sorting them**, stably, by the places of their fields among
those that are seen. -/
theorem groupByField_eq_mergeSort (constraints : List Constraint) :
    groupByField constraints =
      constraints.mergeSort fun a b => compareFirst Constraint.field constraints a b != .gt :=
  (groupedBy_flatMap _ _).unique (groupedBy_mergeSort _ _)

theorem eq_groupByField_iff {parsed grouped : List Constraint} :
    grouped = groupByField parsed ↔ GroupedBy Constraint.field parsed grouped := by
  constructor
  · rintro rfl
    exact groupedBy_flatMap _ _
  · exact fun h => h.unique (groupedBy_flatMap _ _)

end Constraint

namespace FilterPlan

variable {filters : Filters} {fields registered : List String}

/-- The registered filters that are asked for are known by their names and their operands. -/
theorem eq_asked_iff {named : List (String × Scalar)} :
    named = asked filters registered ↔
      named.map Prod.fst = registered.filter (· ∈ filters.keys) ∧
        ∀ entry ∈ named, filters.get? entry.1 = some entry.2 := by
  have hasked : ∀ entry ∈ asked filters registered, filters.get? entry.1 = some entry.2 :=
    fun entry hentry => filters.get?_eq_some_iff.2 (mem_asked.1 hentry).2
  constructor
  · rintro rfl
    exact ⟨map_fst_asked filters registered, hasked⟩
  · rintro ⟨hnames, hget⟩
    exact filters.eq_of_map_fst_eq (hnames.trans (map_fst_asked _ _).symm) hget hasked

/-- **A request is refused for its first bad filter, and else its filters are grouped.** Filters
with a registered name are passed over. If one of the others is refused, the error is that of the
first of them, also where a registered filter would stand in for its field. If none is, the request
has the plan whose constraints are those of the filters, brought together by field, as a stable sort
does it, and which has the operand of every registered filter that is asked for, in the order of
registration. -/
theorem ofFilters_outcome (filters : Filters) (fields registered : List String) :
    (∀ e, ofFilters filters fields registered = .error e ↔
      ∃ before filter after, filters.entries = before ++ filter :: after ∧
        (∀ earlier ∈ before, earlier.1 ∉ registered →
          ∀ e', ¬ Constraint.Refused fields earlier e') ∧
        filter.1 ∉ registered ∧ Constraint.Refused fields filter e) ∧
    ((∃ e, ofFilters filters fields registered = .error e) ↔
      ∃ filter ∈ filters.entries, filter.1 ∉ registered ∧
        ∃ e, Constraint.Refused fields filter e) ∧
    ∀ plan, ofFilters filters fields registered = .ok plan ↔
      ∃ parsed, List.Forall₂ (Constraint.ReadAs fields)
          (filters.entries.filter fun filter => filter.1 ∉ registered) parsed ∧
        GroupedBy Constraint.field parsed plan.constraints ∧
        (plan.constraints =
          parsed.mergeSort fun a b => compareFirst Constraint.field parsed a b != .gt) ∧
        plan.named.map Prod.fst = registered.filter (· ∈ filters.keys) ∧
        ∀ entry ∈ plan.named, filters.get? entry.1 = some entry.2 := by
  have hkeyed : keyed filters registered =
      filters.entries.filter fun filter => filter.1 ∉ registered :=
    List.filter_congr fun filter _ => by simp
  have herror : ∀ e, ofFilters filters fields registered = .error e ↔
      ∃ before filter after, filters.entries = before ++ filter :: after ∧
        (∀ earlier ∈ before, earlier.1 ∉ registered →
          ∀ e', ¬ Constraint.Refused fields earlier e') ∧
        filter.1 ∉ registered ∧ Constraint.Refused fields filter e := by
    intro e
    rw [ofFilters_eq_error_iff, mapM_eq_error_iff, hkeyed, exists_first_of_filter]
    simp only [Constraint.exists_ofFilter_iff, Constraint.ofFilter_eq_error_iff, decide_eq_true_eq]
  refine ⟨herror, ?_, fun plan => ?_⟩
  · simp only [ofFilters_eq_error_iff, exists_mapM_eq_error_iff, hkeyed, List.mem_filter,
      decide_eq_true_eq, Constraint.ofFilter_eq_error_iff, and_assoc]
  · rw [ofFilters_eq_ok_iff, hkeyed]
    simp only [mapM_eq_ok_iff, Constraint.ofFilter_eq_ok_iff]
    obtain ⟨constraints, named⟩ := plan
    refine exists_congr fun parsed => and_congr_right fun _ => ?_
    rw [mk.injEq, eq_asked_iff, ← and_assoc (a := GroupedBy _ _ _)]
    refine and_congr_left fun _ => ?_
    rw [← Constraint.eq_groupByField_iff, ← Constraint.groupByField_eq_mergeSort, and_self]

/-- The filter of a whole field does not save the other one from being refused. -/
example : ofFilters (.ofList [("stock", .bool true), ("stock_sw", .number (.signed 3))]) ["stock"]
    ["stock"] = .error (.typeMismatch "stock" .startsWith [.string] .number) := rfl

end FilterPlan

end KeyedFilter
