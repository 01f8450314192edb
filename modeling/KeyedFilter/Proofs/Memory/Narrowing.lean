import KeyedFilter.Proofs.Memory.Results

/-!
# One more filter

A request with one more filter has one more constraint, somewhere among the others. It selects those
entities of the same request without it of which that constraint is true, and leaving entities out
goes along with sorting them, however they tie. So where both requests are answered, one answer is
the other with some entities left out.

* `sort_filter`: what is left of a sorted list.
* `answer_narrowed`: the answer to a request with one more filter.
-/

namespace KeyedFilter.Memory

variable {σ ε : Type} [HasFields ε]

/-- Is the predicate of a filter key definitely true of the field that it names? -/
def keyHolds (key : FilterKey) (operand : Scalar) (entity : ε) : Bool :=
  decide (key.predicate.evaluate key.field (field entity key.field) operand = .ok true)

theorem sort_filter (clauses : List SortClause) (holds : ε → Bool) (entities : List ε) :
    sort clauses (entities.filter holds) = (sort clauses entities).filter holds :=
  (filter_mergeSort holds entities).symm

theorem filter_selects_cons (c : Constraint) (constraints : List Constraint)
    (tests : List (ε → Bool)) (entities : List ε) :
    entities.filter (selects (c :: constraints) tests) =
      (entities.filter (selects constraints tests)).filter
        (keyHolds c.key c.operand) := by
  rw [List.filter_filter]
  apply List.filter_congr
  intro entity _
  rw [selects, List.all_cons, Bool.and_assoc]
  rfl

/-- **One more filter only narrows the answer.** Where a request is answered with the filter and
without it, the key of the filter names a field that is open to filters. Unless a registered filter
that the request asks for stands in for that field, the answer with the filter is the other one
without the entities of which the predicate is not definitely true, in the same order. -/
theorem answer_narrowed (entities : List ε) (clauses : List SortClause) (fields : List String)
    (tests : OrderedMap (Scalar → ε → Bool)) (request : Request) (key : String) (operand : Scalar)
    (hnew : key ∉ request.filters.keys) (hkey : key ∉ tests.keys) (s s' : σ) (l l' : List ε)
    (h : (search entities clauses fields tests none request).outcome s = .ok l)
    (h' : (search entities clauses fields tests none
      { request with filters := request.filters.insert key operand }).outcome s' = .ok l') :
    ∃ parsed, FilterKey.parse fields key = .ok parsed ∧
      l' = (if parsed.field ∈ tests.keys ∧ parsed.field ∈ request.filters.keys then l
        else l.filter (keyHolds parsed operand)) ∧
      l'.Sublist l := by
  obtain ⟨plan, hplan, -, rfl⟩ := exists_plan_of_answer h
  obtain ⟨plan', hplan', -, rfl⟩ := exists_plan_of_answer h'
  obtain ⟨c, hc, hconstraints, hnamed⟩ :=
    FilterPlan.exists_ofFilter_of_insert hnew hkey hplan hplan'
  obtain ⟨hparse, hoperand⟩ := Constraint.parse_of_ofFilter hc
  have hcovers : plan.covers c.key.field = true ↔
      c.key.field ∈ tests.keys ∧ c.key.field ∈ request.filters.keys :=
    FilterPlan.covers_eq_true_iff hplan
  have hselects := selects_eq_of_perm (FilterPlan.remaining_perm_cons hconstraints hnamed)
    (askedTests tests plan.named)
  -- without a page, nothing is cut out of what is selected and sorted
  have hwhole : ∀ request plan (found : List ε), (planQuery tests none request plan).cut found =
      found := fun _ _ _ => rfl
  refine ⟨c.key, hparse, ?_⟩
  rw [hwhole, hwhole, hnamed, hselects]
  by_cases hcovered : plan.covers c.field = true
  · rw [if_pos hcovered, if_pos (hcovers.1 hcovered)]
    exact ⟨rfl, .refl _⟩
  · rw [if_neg hcovered, if_neg (mt hcovers.2 hcovered), filter_selects_cons, sort_filter, hoperand]
    exact ⟨rfl, List.filter_sublist⟩

/-- Nothing is known of the missing price, and the two rows that are left tie. -/
theorem answer_narrowed_prices :
    let lamp : Row := ⟨[("name", .string "lamp"), ("price", .signed 20)]⟩
    let gift : Row := ⟨[("name", .string "gift")]⟩
    let sofa : Row := ⟨[("name", .string "sofa"), ("price", .double ⟨0x4034000000000000⟩)]⟩
    let desk : Row := ⟨[("name", .string "desk"), ("price", .signed 90)]⟩
    let filters : Filters := .ofList [("name_not_eq", .string "desk")]
    let outcome := fun filters : Filters =>
      (search [lamp, gift, sofa, desk] [⟨"price", .descending⟩] ["name", "price"] ∅ none
        { filters }).outcome ()
    outcome filters = .ok [gift, lamp, sofa] ∧
      outcome (filters.insert "price_lt" (.string "50")) = .ok [lamp, sofa] ∧
      FilterKey.parse ["name", "price"] "price_lt" = .ok ⟨"price", ⟨.less, false⟩⟩ ∧
      [lamp, sofa] =
        [gift, lamp, sofa].filter (keyHolds ⟨"price", ⟨.less, false⟩⟩ (.string "50")) := by
  intro lamp gift sofa desk filters outcome
  have hsort : sort [⟨"price", .descending⟩] [lamp, gift, sofa] = [gift, lamp, sofa] := by
    refine (StablySorted.unique (stablySorted_mergeSort _)
      ⟨[(gift, 1), (lamp, 0), (sofa, 2)], .swap _ _ _, ?_, rfl⟩).symm
    refine .cons ?_ (.cons ?_ (.cons nofun .nil))
    · simp only [List.forall_mem_cons]
      exact ⟨.inl (by decide), .inl (by decide), nofun⟩
    · simp only [List.forall_mem_cons]
      exact ⟨.inr ⟨by decide, by decide⟩, nofun⟩
  have hsort' : sort [⟨"price", .descending⟩] [lamp, sofa] = [lamp, sofa] :=
    List.mergeSort_of_pairwise (by decide)
  have h : outcome filters = .ok [gift, lamp, sofa] := by
    rw [← hsort]
    rfl
  have h' : outcome (filters.insert "price_lt" (.string "50")) = .ok [lamp, sofa] := by
    rw [← hsort']
    rfl
  have hparse : FilterKey.parse ["name", "price"] "price_lt" = .ok ⟨"price", ⟨.less, false⟩⟩ := rfl
  obtain ⟨parsed, hparsed, hnarrowed, -⟩ := answer_narrowed [lamp, gift, sofa, desk]
    [⟨"price", .descending⟩] ["name", "price"] ∅ { filters } "price_lt" (.string "50")
    (by decide) (by decide) () () _ _ h h'
  obtain rfl : _ = parsed := Except.ok.inj (hparse.symm.trans hparsed)
  exact ⟨h, h', hparse, hnarrowed⟩

end KeyedFilter.Memory
