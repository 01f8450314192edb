import KeyedFilter.FilterPlan
import KeyedFilter.Proofs.FilterKey
import KeyedFilter.Proofs.GroupedList
import KeyedFilter.Proofs.Traversal

/-!
# Filter plans keep every filter

A request that is valid comes to a plan in which each of its filters stands exactly once: as the
operand of a registered filter, or as a constraint from whose key the text of the filter can be read
off. Nothing else is in the plan, and grouping constraints by field only moves them.

* `Constraint.filter`: the filter that a constraint comes from.
* `FilterPlan.ofFilters_eq_ok_iff`: when a request has a plan, and which.
* `FilterPlan.asked_perm`, `FilterPlan.constraints_perm`: what the plan holds.
* `FilterPlan.exists_ofFilters_perm`: the plan of the same filters in another order.
* `FilterPlan.exists_ofFilter_of_insert`: the plan of the same filters and one more.
-/

namespace KeyedFilter

namespace Constraint

/-- The field and the predicate of a constraint. -/
def key (c : Constraint) : FilterKey := ⟨c.field, c.predicate⟩

/-- The filter that asks for a constraint. -/
def filter (c : Constraint) : String × Scalar := (c.key.text, c.operand)

theorem ofKey_eq_ok_iff {key : FilterKey} {operand : Scalar} {c : Constraint} :
    ofKey key operand = .ok c ↔
      key.predicate.relation.checkOperandType key.field operand = .ok () ∧
        c = ⟨key.field, key.predicate, operand⟩ := by
  rw [ofKey]
  cases key.predicate.relation.checkOperandType key.field operand with
  | error e => simp [bind, Except.bind]
  | ok => simp [bind, Except.bind, pure, Except.pure, eq_comm]

/-- A filter is read as the constraint with its key and its operand, which is right for it. -/
structure ReadAs (fields : List String) (filter : String × Scalar) (c : Constraint) : Prop where
  parse : FilterKey.parse fields filter.1 = .ok c.key
  operand : c.operand = filter.2
  accepted : c.predicate.relation.checkOperandType c.field c.operand = .ok ()

theorem ofFilter_eq_ok_iff {fields : List String} {filter : String × Scalar} {c : Constraint} :
    ofFilter fields filter = .ok c ↔ ReadAs fields filter c := by
  rw [ofFilter]
  constructor
  · intro h
    cases hkey : FilterKey.parse fields filter.1 with
    | error e => simp [hkey, bind, Except.bind] at h
    | ok key =>
      simp only [hkey, bind, Except.bind] at h
      obtain ⟨hcheck, rfl⟩ := ofKey_eq_ok_iff.1 h
      exact ⟨hkey, rfl, hcheck⟩
  · rintro ⟨hkey, hoperand, hcheck⟩
    rw [hkey, ← hoperand]
    exact ofKey_eq_ok_iff.2 ⟨hcheck, rfl⟩

/-- A constraint has the key and the operand of the filter that asks for it. -/
theorem parse_of_ofFilter {fields : List String} {filter : String × Scalar} {c : Constraint}
    (h : ofFilter fields filter = .ok c) :
    FilterKey.parse fields filter.1 = .ok c.key ∧ c.operand = filter.2 :=
  have hread := ofFilter_eq_ok_iff.1 h
  ⟨hread.parse, hread.operand⟩

/-- **A constraint remembers the filter that it was read from.** -/
theorem filter_of_ofFilter {fields : List String} {filter : String × Scalar} {c : Constraint}
    (h : ofFilter fields filter = .ok c) : c.filter = filter := by
  obtain ⟨hparse, hoperand⟩ := parse_of_ofFilter h
  exact Prod.ext (FilterKey.text_of_parse hparse) hoperand

theorem groupByField_perm (constraints : List Constraint) :
    (groupByField constraints).Perm constraints :=
  (groupedBy_flatMap Constraint.field constraints).perm

/-- The first constraint stays the first. -/
theorem exists_groupByField_cons (c : Constraint) (constraints : List Constraint) :
    ∃ rest, groupByField (c :: constraints) = c :: rest := by
  unfold groupByField
  rw [List.map_cons, List.eraseDups_cons, List.flatMap_cons, List.filter_cons_of_pos (by simp)]
  exact ⟨_, rfl⟩

end Constraint

namespace FilterPlan

variable {filters : Filters} {fields registered : List String} {plan : FilterPlan}

/-- The filters of a request that are read as filter keys. -/
def keyed (filters : Filters) (registered : List String) : List (String × Scalar) :=
  filters.entries.filter fun filter => !registered.contains filter.1

/-- The registered filters that a request asks for, with their operands. -/
def asked (filters : Filters) (registered : List String) : List (String × Scalar) :=
  registered.filterMap fun name => (filters.get? name).map fun operand => (name, operand)

/-- The filters that are read as keys are read in order, and the plan is made of what they give. -/
theorem ofFilters_eq (filters : Filters) (fields registered : List String) :
    ofFilters filters fields registered =
      ((keyed filters registered).mapM (Constraint.ofFilter fields)).map fun constraints =>
        ⟨Constraint.groupByField constraints, asked filters registered⟩ := by
  rw [ofFilters, keyed, asked]
  cases (filters.entries.filter fun filter => !registered.contains filter.1).mapM
    (Constraint.ofFilter fields) <;> rfl

/-- A request has a plan when each filter that is read as a key can be read. -/
theorem ofFilters_eq_ok_iff :
    ofFilters filters fields registered = .ok plan ↔
      ∃ constraints,
        (keyed filters registered).mapM (Constraint.ofFilter fields) = .ok constraints ∧
        plan = ⟨Constraint.groupByField constraints, asked filters registered⟩ := by
  rw [ofFilters_eq]
  cases (keyed filters registered).mapM (Constraint.ofFilter fields) <;> simp [Except.map, eq_comm]

theorem ofFilters_eq_error_iff {e : FilterError} :
    ofFilters filters fields registered = .error e ↔
      (keyed filters registered).mapM (Constraint.ofFilter fields) = .error e := by
  rw [ofFilters_eq]
  cases (keyed filters registered).mapM (Constraint.ofFilter fields) <;> simp [Except.map]

theorem named_eq (h : ofFilters filters fields registered = .ok plan) :
    plan.named = asked filters registered := by
  obtain ⟨constraints, -, rfl⟩ := ofFilters_eq_ok_iff.1 h
  rfl

theorem mem_asked {entry : String × Scalar} :
    entry ∈ asked filters registered ↔ entry.1 ∈ registered ∧ entry ∈ filters.entries := by
  simp only [asked, List.mem_filterMap, Option.map_eq_some_iff, OrderedMap.get?_eq_some_iff]
  constructor
  · rintro ⟨name, hname, operand, hmem, rfl⟩
    exact ⟨hname, hmem⟩
  · rintro ⟨hname, hmem⟩
    exact ⟨entry.1, hname, entry.2, hmem, rfl⟩

/-- A plan covers a field when a filter is registered under its name and asked for. -/
theorem covers_eq_true_iff (h : ofFilters filters fields registered = .ok plan) {field : String} :
    plan.covers field = true ↔ field ∈ registered ∧ field ∈ filters.keys := by
  rw [covers, named_eq h, List.any_eq_true]
  simp only [mem_asked, beq_iff_eq, OrderedMap.keys, List.mem_map]
  constructor
  · rintro ⟨entry, ⟨hregistered, hentry⟩, rfl⟩
    exact ⟨hregistered, entry, hentry, rfl⟩
  · rintro ⟨hregistered, entry, hentry, rfl⟩
    exact ⟨entry, ⟨hregistered, hentry⟩, rfl⟩

/-- The registered filters that are asked for stand in the order of their registration. -/
theorem map_fst_asked (filters : Filters) (registered : List String) :
    (asked filters registered).map Prod.fst = registered.filter (· ∈ filters.keys) := by
  induction registered with
  | nil => rfl
  | cons name rest ih =>
    rw [asked, List.filterMap_cons]
    cases hget : filters.get? name with
    | none =>
      rw [List.filter_cons_of_neg (by simp [filters.mem_keys_iff, hget])]
      exact ih
    | some operand =>
      rw [List.filter_cons_of_pos (by simp [filters.mem_keys_iff, hget])]
      exact congrArg (name :: ·) ih

theorem asked_perm (filters : Filters) (hnodup : registered.Nodup) :
    (asked filters registered).Perm
      (filters.entries.filter fun filter => registered.contains filter.1) := by
  have hasked : (asked filters registered).Nodup := by
    refine List.Nodup.of_map Prod.fst ?_
    rw [map_fst_asked]
    exact hnodup.filter _
  rw [List.perm_ext_iff_of_nodup hasked (filters.entries_nodup.filter _)]
  intro entry
  rw [mem_asked, List.mem_filter, List.contains_iff_mem, and_comm]

/-- **The constraints of a plan are the filters that no registered name takes.** -/
theorem constraints_perm (h : ofFilters filters fields registered = .ok plan) :
    (plan.constraints.map Constraint.filter).Perm (keyed filters registered) := by
  obtain ⟨constraints, hread, rfl⟩ := ofFilters_eq_ok_iff.1 h
  have hfilter : constraints.map Constraint.filter = keyed filters registered := by
    clear h
    rw [mapM_eq_ok_iff] at hread
    generalize keyed filters registered = l at hread ⊢
    induction hread with
    | nil => rfl
    | cons hfirst _ ih => rw [List.map_cons, Constraint.filter_of_ofFilter hfirst, ih]
  rw [← hfilter]
  exact (Constraint.groupByField_perm constraints).map _

theorem asked_eq_of_perm {filters' : Filters} (h : filters.entries.Perm filters'.entries) :
    asked filters registered = asked filters' registered := by
  unfold asked
  congr 1
  funext name
  rw [OrderedMap.get?_eq_of_perm h]

/-- **The same filters in another order have a plan as well**, with the same constraints in some
order and the same registered filters in the same order. -/
theorem exists_ofFilters_perm {filters' : Filters} (hperm : filters.entries.Perm filters'.entries)
    (h : ofFilters filters fields registered = .ok plan) :
    ∃ plan', ofFilters filters' fields registered = .ok plan' ∧
      plan.constraints.Perm plan'.constraints ∧ plan.named = plan'.named := by
  obtain ⟨constraints, hread, rfl⟩ := ofFilters_eq_ok_iff.1 h
  obtain ⟨constraints', hread', hconstraints⟩ := exists_mapM_perm (hperm.filter _) hread
  refine ⟨_, ofFilters_eq_ok_iff.2 ⟨constraints', hread', rfl⟩, ?_, asked_eq_of_perm hperm⟩
  exact (Constraint.groupByField_perm _).trans
    (hconstraints.trans (Constraint.groupByField_perm _).symm)

theorem ofFilters_error_of_perm {filters' : Filters}
    (hperm : filters.entries.Perm filters'.entries)
    (h : ∃ e, ofFilters filters fields registered = .error e) :
    ∃ e, ofFilters filters' fields registered = .error e := by
  obtain ⟨e, he⟩ := h
  cases hplan : ofFilters filters' fields registered with
  | error e' => exact ⟨e', rfl⟩
  | ok plan' =>
    obtain ⟨plan, hplan, -⟩ := exists_ofFilters_perm hperm.symm hplan
    rw [hplan] at he
    cases he

theorem remaining_perm {plan' : FilterPlan} (hconstraints : plan.constraints.Perm plan'.constraints)
    (hnamed : plan.named = plan'.named) : plan.remaining.Perm plan'.remaining := by
  unfold remaining covers
  rw [hnamed]
  exact hconstraints.filter _

/-! ### One more filter -/

/-- A new filter that is read as a key comes behind the others. -/
theorem keyed_insert {key : String} (hnew : key ∉ filters.keys) (hkey : key ∉ registered)
    (operand : Scalar) :
    keyed (filters.insert key operand) registered =
      keyed filters registered ++ [(key, operand)] := by
  rw [keyed, OrderedMap.entries_insert_of_notMem hnew, List.filter_append, keyed]
  simp [hkey]

theorem asked_insert {key : String} (hkey : key ∉ registered) (operand : Scalar) :
    asked (filters.insert key operand) registered = asked filters registered := by
  apply List.filterMap_congr
  intro name hname
  rw [OrderedMap.get?_insert, if_neg (ne_of_mem_of_not_mem hname hkey)]

/-- **One more filter puts the constraint that it asks for among the others**, and changes nothing
else. -/
theorem exists_ofFilter_of_insert {plan' : FilterPlan} {key : String} {operand : Scalar}
    (hnew : key ∉ filters.keys) (hkey : key ∉ registered)
    (h : ofFilters filters fields registered = .ok plan)
    (h' : ofFilters (filters.insert key operand) fields registered = .ok plan') :
    ∃ c, Constraint.ofFilter fields (key, operand) = .ok c ∧
      plan'.constraints.Perm (c :: plan.constraints) ∧ plan'.named = plan.named := by
  obtain ⟨constraints, hread, rfl⟩ := ofFilters_eq_ok_iff.1 h
  obtain ⟨constraints', hread', rfl⟩ := ofFilters_eq_ok_iff.1 h'
  rw [keyed_insert hnew hkey, List.mapM_append, hread] at hread'
  cases hc : Constraint.ofFilter fields (key, operand) with
  | error e => simp [hc, bind, Except.bind] at hread'
  | ok c =>
    obtain rfl : constraints ++ [c] = constraints' := by
      simpa [hc, bind, Except.bind, pure, Except.pure] using hread'
    refine ⟨c, rfl, ?_, asked_insert hkey operand⟩
    refine (Constraint.groupByField_perm _).trans ?_
    refine (List.perm_append_singleton c constraints).trans ?_
    exact (Constraint.groupByField_perm constraints).symm.cons c

/-- One more constraint is left in a plan unless a registered filter stands in for it. -/
theorem remaining_perm_cons {plan' : FilterPlan} {c : Constraint}
    (hconstraints : plan'.constraints.Perm (c :: plan.constraints))
    (hnamed : plan'.named = plan.named) :
    plan'.remaining.Perm (if plan.covers c.field then plan.remaining else c :: plan.remaining) := by
  have hremaining : plan'.remaining.Perm (remaining ⟨c :: plan.constraints, plan.named⟩) :=
    remaining_perm hconstraints hnamed
  have hcons : remaining ⟨c :: plan.constraints, plan.named⟩ =
      if plan.covers c.field then plan.remaining else c :: plan.remaining := by
    cases hcovers : plan.covers c.field with
    | false => exact List.filter_cons_of_pos (congrArg not hcovers)
    | true =>
      exact List.filter_cons_of_neg (by simpa [covers] using hcovers)
  rw [← hcons]
  exact hremaining

/-! ### Filters in another order -/

/-- Each constraint of a plan is what its own filter asks for. -/
theorem ofFilter_of_mem (h : ofFilters filters fields registered = .ok plan) {c : Constraint}
    (hc : c ∈ plan.constraints) : Constraint.ofFilter fields c.filter = .ok c := by
  obtain ⟨constraints, hread, rfl⟩ := ofFilters_eq_ok_iff.1 h
  rw [(Constraint.groupByField_perm constraints).mem_iff] at hc
  clear h
  rw [mapM_eq_ok_iff] at hread
  generalize keyed filters registered = l at hread
  induction hread with
  | nil => cases hc
  | @cons filter d _ _ hfirst _ ih =>
    rcases List.mem_cons.1 hc with rfl | hc
    · rw [Constraint.filter_of_ofFilter hfirst]
      exact hfirst
    · exact ih hc

/-- Any constraint that is left in a plan comes first when its filter does. -/
theorem exists_remaining_cons (h : ofFilters filters fields registered = .ok plan) {c : Constraint}
    (hc : c ∈ plan.remaining) :
    ∃ filters' : Filters, filters.entries.Perm filters'.entries ∧ ∃ plan' rest,
      ofFilters filters' fields registered = .ok plan' ∧ plan'.remaining = c :: rest := by
  rw [remaining, List.mem_filter] at hc
  obtain ⟨hmem, huncovered⟩ := hc
  have hkeyed : c.filter ∈ keyed filters registered :=
    (constraints_perm h).mem_iff.1 (List.mem_map_of_mem hmem)
  rw [keyed, List.mem_filter] at hkeyed
  have hperm : filters.entries.Perm (c.filter :: filters.entries.erase c.filter) :=
    List.perm_cons_erase hkeyed.1
  let filters' : Filters := ⟨_, (hperm.map Prod.fst).nodup_iff.1 filters.nodup⟩
  have hfilters : filters.entries.Perm filters'.entries := hperm
  obtain ⟨plan', hplan', -, hnamed⟩ := exists_ofFilters_perm hfilters h
  obtain ⟨constraints, hread, rfl⟩ := ofFilters_eq_ok_iff.1 hplan'
  have hfirst : keyed filters' registered = c.filter ::
      (filters.entries.erase c.filter).filter fun filter => !registered.contains filter.1 :=
    List.filter_cons_of_pos hkeyed.2
  rw [mapM_eq_ok_iff, hfirst] at hread
  cases hread with
  | @cons _ d _ ds hd _ =>
    obtain rfl : c = d := Except.ok.inj ((ofFilter_of_mem h hmem).symm.trans hd)
    obtain ⟨rest, hgroup⟩ := Constraint.exists_groupByField_cons c ds
    have huncovered' : (!covers ⟨c :: rest, asked filters' registered⟩ c.field) = true := by
      rw [← huncovered, covers, covers, hnamed]
    rw [hgroup] at hplan'
    exact ⟨filters', hfilters, _, _, hplan', List.filter_cons_of_pos huncovered'⟩

end FilterPlan

end KeyedFilter
