import KeyedFilter.Journal
import KeyedFilter.Scalar.Conversion
import KeyedFilter.Proofs.Refinement

/-!
# Conservation of filters

From a request to the query that is run, no filter is lost and none is applied twice. The plan of a
request holds each filter once, and refining a query takes one step for each entry of the plan,
save the constraints that a registered filter stands in for.
-/

namespace KeyedFilter

variable {σ Q ε : Type}

namespace FilterPlan

variable {filters : Filters} {fields registered : List String} {plan : FilterPlan}

/-- The filters that a plan stands for. -/
def entries (plan : FilterPlan) : List (String × Scalar) :=
  plan.named ++ plan.constraints.map Constraint.filter

theorem entries_perm (hnodup : registered.Nodup)
    (h : ofFilters filters fields registered = .ok plan) : plan.entries.Perm filters.entries := by
  have hnamed := asked_perm filters hnodup
  rw [← named_eq h] at hnamed
  exact (hnamed.append (constraints_perm h)).trans (List.filter_append_perm _ _)

theorem mem_named_iff (h : ofFilters filters fields registered = .ok plan) {entry : String × Scalar}
    (hentry : entry ∈ filters.entries) : entry ∈ plan.named ↔ entry.1 ∈ registered := by
  rw [named_eq h, mem_asked]
  exact and_iff_left hentry

theorem mem_constraints_iff (h : ofFilters filters fields registered = .ok plan)
    {entry : String × Scalar} (hentry : entry ∈ filters.entries) :
    entry ∈ plan.constraints.map Constraint.filter ↔ entry.1 ∉ registered := by
  rw [(constraints_perm h).mem_iff, keyed, List.mem_filter]
  simp [hentry]

/-- The texts of the keys tell the constraints apart, so their fields and predicates do. -/
theorem constraints_key_nodup (h : ofFilters filters fields registered = .ok plan) :
    (plan.constraints.map Constraint.key).Nodup := by
  have hkeyed : ((keyed filters registered).map Prod.fst).Nodup :=
    filters.nodup.sublist (List.filter_sublist.map _)
  have htexts := ((constraints_perm h).map Prod.fst).nodup_iff.2 hkeyed
  have hmap : (plan.constraints.map Constraint.filter).map Prod.fst =
      (plan.constraints.map Constraint.key).map FilterKey.text := by
    rw [List.map_map, List.map_map]
    rfl
  rw [hmap] at htexts
  exact htexts.of_map

end FilterPlan

/-- Only a constraint of the plan can be refused. -/
theorem FilterPlan.refused_eq_constrain {source : Source σ Q ε} {registered : NamedFilters Q}
    {plan : FilterPlan} {last : QueryStep Q} (hlast : last ∈ plan.steps registered) {query : Q}
    {s s' : σ} {e : FilterError} (h : (source.take query last).run s = (.error e, s')) :
    ∃ c, last = .constrain c := by
  rw [FilterPlan.steps, List.mem_append] at hlast
  rcases hlast with hlast | hlast
  · obtain ⟨entry, -, hentry⟩ := List.mem_filterMap.1 hlast
    obtain ⟨filter, -, rfl⟩ := Option.map_eq_some_iff.1 hentry
    cases h
  · obtain ⟨c, -, rfl⟩ := List.mem_map.1 hlast
    exact ⟨c, rfl⟩

/-- **No filter of a request is lost or applied twice.** The plan holds each filter of the request
once and nothing else: under its name if that is registered, else as the one constraint with that
key. Refining a query performs the registered filters in the order of their registration, with
their operands, and then the constraints on the fields that none of them is named for; a constraint
that is refused is the last step, and its error is the outcome. -/
theorem filters_performed_once (source : Source σ Q ε) (registered : NamedFilters Q)
    (filters : Filters) (fields : List String) (plan : FilterPlan)
    (h : FilterPlan.ofFilters filters fields registered.keys = .ok plan) :
    ((plan.named ++ plan.constraints.map fun c =>
        (c.field ++ "_" ++ c.predicate.token, c.operand)).Perm filters.entries ∧
      filters.entries.Nodup ∧
      (∀ entry ∈ filters.entries, (entry ∈ plan.named ↔ entry.1 ∈ registered.keys) ∧
        (entry ∈ plan.constraints.map (fun c =>
          (c.field ++ "_" ++ c.predicate.token, c.operand)) ↔ entry.1 ∉ registered.keys)) ∧
      (plan.constraints.map fun c => (c.field, c.predicate)).Nodup) ∧
    let steps : List (QueryStep Q) :=
      (registered.entries.filterMap fun entry =>
        (filters.get? entry.1).map fun operand => .apply entry.2 operand) ++
      (plan.constraints.filter fun c => c.field ∉ plan.named.map Prod.fst).map .constrain
    ∀ (query : Q) (s : σ), ∃ performed outcome s',
      (source.refine registered plan query).run s = (outcome, s') ∧
      source.Performs performed query s outcome s' ∧
      ((∃ query', outcome = .ok query') → performed = steps) ∧
      ∀ e, outcome = .error e → ∃ front c rest query₁ s₁,
        steps = front ++ .constrain c :: rest ∧ performed = front ++ [.constrain c] ∧
        source.Performs front query s (.ok query₁) s₁ ∧
        (source.constrain query₁ c).run s₁ = (.error e, s') := by
  refine ⟨⟨FilterPlan.entries_perm registered.nodup h, filters.entries_nodup, fun entry hentry =>
    ⟨FilterPlan.mem_named_iff h hentry, FilterPlan.mem_constraints_iff h hentry⟩, ?_⟩, ?_⟩
  · have hkeys := FilterPlan.constraints_key_nodup h
    have hpair : (plan.constraints.map fun c => (c.field, c.predicate)).map
        (fun pair => FilterKey.mk pair.1 pair.2) = plan.constraints.map Constraint.key := by
      rw [List.map_map]
      rfl
    rw [← hpair] at hkeys
    exact hkeys.of_map
  · intro steps query s
    have hplan : plan.steps registered = steps := FilterPlan.steps_eq h
    obtain ⟨performed, outcome, s', hrun, hperf, hinit, hall⟩ :=
      source.foldlM_performs (plan.steps registered) query s
    rw [← Source.refine_eq_foldlM] at hrun
    refine ⟨performed, outcome, s', hrun, hperf, fun hok => (hall hok).trans hplan, ?_⟩
    -- the last step that was performed is the one that was refused, so it is a constraint
    rintro e rfl
    obtain ⟨front, last, query₁, s₁, rfl, hfront, hlast⟩ := hperf.exists_refused
    obtain ⟨rest, hrest⟩ := hinit
    have hmem : last ∈ plan.steps registered := by
      rw [← hrest]
      simp
    obtain ⟨c, rfl⟩ := FilterPlan.refused_eq_constrain hmem hlast
    refine ⟨front, c, rest, query₁, s₁, ?_, rfl, hfront, hlast⟩
    rw [← hplan, ← hrest, List.append_assoc]
    rfl

/-- Here `stock` stands in for the constraint on the field of that name. -/
theorem filters_performed_once_stock :
    let registered : NamedFilters (List (Journal.Entry String)) :=
      (∅ : NamedFilters _).insert "stock" (Journal.filter "in stock")
    let filters : Filters := .ofList [("price_gte", .signed 15), ("name_not_eq", .string "lamp"),
      ("stock_lt", .signed 3), ("stock", .bool true)]
    let price : Constraint := ⟨"price", ⟨.greaterOrEqual, false⟩, .signed 15⟩
    let name : Constraint := ⟨"name", ⟨.equals, true⟩, .string "lamp"⟩
    let plan : FilterPlan :=
      ⟨[price, name, ⟨"stock", ⟨.less, false⟩, .signed 3⟩], [("stock", .bool true)]⟩
    FilterPlan.ofFilters filters ["price", "stock", "name"] registered.keys = .ok plan ∧
      ∃ s', (Journal.source String).Performs
        [.apply (Journal.filter "in stock") (.bool true), .constrain price, .constrain name] [] {}
        (.ok [.named "in stock" (.bool true), .constrain price, .constrain name]) s' := by
  intro registered filters price name plan
  have hplan : FilterPlan.ofFilters filters ["price", "stock", "name"] registered.keys = .ok plan :=
    rfl
  obtain ⟨performed, outcome, s', hrun, hperf, hall, -⟩ :=
    (filters_performed_once (Journal.source String) registered filters _ plan hplan).2 [] {}
  cases hrun
  rw [hall ⟨_, rfl⟩] at hperf
  exact ⟨hplan, _, hperf⟩

end KeyedFilter
