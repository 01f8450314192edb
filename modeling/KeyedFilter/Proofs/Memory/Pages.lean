import KeyedFilter.Proofs.Memory.Results
import KeyedFilter.Proofs.Paging

/-!
# Pages of a search in memory

A registered filter may do anything to a query, and so it may ask for a part of the result itself.
The window of a page then takes the place of that part. What is cut into pages is therefore what a
request finds when nobody asks for a part, and as the stretches of the pages tile a list, the pages
tile that result. It is the answer without paging whenever the filters that are applied leave no
window behind.

* `wholeResult`, `askedWindow`: what is found when nobody asks for a part, and the part that the
  filters of a request ask for.
* `outcome_unpaged`, `outcome_paged`: what a request finds without paging, and what a page shows.
* `pages_tile_whole_result`: all pages.
* `page_overruns_window`: a page that shows more than the answer without paging.
-/

namespace KeyedFilter.Memory

variable {σ ε : Type}

/-- No registered filter asks for a part of the result: a query without a window is left without
one. -/
def LeaveWhole (named : NamedFilters (Query ε)) : Prop :=
  ∀ entry ∈ named.entries, ∀ query operand, query.window = none →
    (entry.2 query operand).window = none

theorem leaveWhole_testFilters (tests : OrderedMap (Scalar → ε → Bool)) :
    LeaveWhole (testFilters tests) := by
  intro entry hentry query operand hquery
  obtain ⟨test, -, rfl⟩ := List.mem_map.1 hentry
  exact hquery

theorem LeaveWhole.applyTo {named : NamedFilters (Query ε)} (h : LeaveWhole named)
    (plan : FilterPlan) {query : Query ε} (hquery : query.window = none) :
    (named.applyTo plan query).window = none := by
  obtain ⟨constraints, asked⟩ := plan
  unfold NamedFilters.applyTo
  induction asked generalizing query with
  | nil => exact hquery
  | cons entry rest ih =>
    refine ih ?_
    show ((named.get? entry.1).elim query fun filter => filter query entry.2).window = none
    cases hfilter : named.get? entry.1 with
    | none => exact hquery
    | some filter =>
      exact h (entry.1, filter) (named.get?_eq_some_iff.1 hfilter) query entry.2 hquery

variable [HasFields ε]

/-! ### What is found before a part is cut out -/

omit [HasFields ε] in
/-- The query without the part that it asks for. -/
def Query.uncut (query : Query ε) : Query ε :=
  { query with window := none }

/-- A window does not matter to what matches. -/
theorem matching_uncut (query : Query ε) (entities : List ε) :
    matching query.uncut entities = matching query entities := by
  induction entities with
  | nil => rfl
  | cons entity rest ih =>
    unfold matching
    rw [ih]
    rfl

/-- A part is cut out last of all. -/
theorem select_eq_map_cut (entities : List ε) (clauses : List SortClause) (query : Query ε) :
    select entities clauses query = (select entities clauses query.uncut).map query.cut := by
  unfold select
  rw [matching_uncut]
  cases matching query entities with
  | error e => rfl
  | ok found => rfl

/-- What matches is taken from the entities, in their order. -/
theorem matching_sublist {query : Query ε} {entities found : List ε}
    (h : matching query entities = .ok found) : found.Sublist entities := by
  induction entities generalizing found with
  | nil =>
    cases h
    exact .slnil
  | cons entity rest ih =>
    rw [matching] at h
    cases haccepts : query.accepts entity with
    | error e =>
      rw [haccepts] at h
      cases h
    | ok accepted =>
      cases hrest : matching query rest with
      | error e =>
        rw [haccepts, hrest] at h
        cases h
      | ok others =>
        rw [haccepts, hrest] at h
        cases accepted with
        | false =>
          obtain rfl : others = found := Except.ok.inj h
          exact (ih hrest).cons entity
        | true =>
          obtain rfl : entity :: others = found := Except.ok.inj h
          exact (ih hrest).cons_cons entity

theorem length_select_uncut_le {entities : List ε} {clauses : List SortClause} {query : Query ε}
    {found : List ε} (h : select entities clauses query.uncut = .ok found) :
    found.length ≤ entities.length := by
  unfold select at h
  cases hmatching : matching query.uncut entities with
  | error e =>
    rw [hmatching] at h
    cases h
  | ok matched =>
    rw [hmatching] at h
    obtain rfl : sort clauses matched = found := Except.ok.inj h
    rw [sort, List.length_mergeSort]
    exact (matching_sublist hmatching).length_le

/-! ### What a page shows -/

section

variable (named : NamedFilters (Query ε)) (entities : List ε) (clauses : List SortClause)
  (fields : List String)

/-- What a request finds when nobody asks for a part, neither paging nor a registered filter. -/
def wholeResult (filters : Filters) : Except FilterError (List ε) :=
  (FilterPlan.ofFilters filters fields named.keys).bind fun plan =>
    select entities clauses (wholeQuery named plan).uncut

omit [HasFields ε] in
/-- The part that the registered filters of a request ask for. -/
def askedWindow (filters : Filters) : Option Window :=
  match FilterPlan.ofFilters filters fields named.keys with
  | .ok plan => (named.applyTo plan {}).window
  | .error _ => none

omit [HasFields ε] in
theorem LeaveWhole.askedWindow {named : NamedFilters (Query ε)} (h : LeaveWhole named)
    (fields : List String) (filters : Filters) : askedWindow named fields filters = none := by
  unfold Memory.askedWindow
  cases FilterPlan.ofFilters filters fields named.keys with
  | error e => rfl
  | ok plan => exact h.applyTo plan rfl

/-- Without paging, a request finds the part that its filters ask for. -/
theorem outcome_unpaged (request : Request) (s : σ) :
    (searchWith named entities clauses fields none request).outcome s =
      (wholeResult named entities clauses fields request.filters).map fun found =>
        (askedWindow named fields request.filters).elim found fun window => window.cut found := by
  unfold wholeResult askedWindow
  cases hplan : FilterPlan.ofFilters request.filters fields named.keys with
  | error e =>
    rw [outcome_searchWith_of_plan_error named entities clauses fields _ request hplan]
    rfl
  | ok plan =>
    rw [outcome_searchWith_of_plan_ok named entities clauses fields _ request hplan]
    exact select_eq_map_cut entities clauses (wholeQuery named plan)

/-- **A page shows a part of what is found when nobody else asks for one**, and fails with it. -/
theorem outcome_paged (paging : Paging) (request : Request) (s : σ) :
    (searchWith named entities clauses fields (some paging) request).outcome s =
      (wholeResult named entities clauses fields request.filters).map
        (paging.window request.page request.perPage).cut := by
  unfold wholeResult
  cases hplan : FilterPlan.ofFilters request.filters fields named.keys with
  | error e =>
    rw [outcome_searchWith_of_plan_error named entities clauses fields _ request hplan]
    rfl
  | ok plan =>
    rw [outcome_searchWith_of_plan_ok named entities clauses fields _ request hplan]
    exact select_eq_map_cut entities clauses
      ((wholeQuery named plan).cutTo (paging.window request.page request.perPage))

variable {named entities clauses fields}

theorem length_wholeResult_le {filters : Filters} {found : List ε}
    (h : wholeResult named entities clauses fields filters = .ok found) :
    found.length ≤ entities.length := by
  unfold wholeResult at h
  cases hplan : FilterPlan.ofFilters filters fields named.keys with
  | error e =>
    rw [hplan] at h
    cases h
  | ok plan =>
    rw [hplan] at h
    exact length_select_uncut_le h

end

/-- **The pages of a request tile what it finds when nobody else asks for a part.** Without paging
that is what it finds, up to the part that its filters ask for. -/
theorem pages_tile_whole_result (named : NamedFilters (Query ε)) (entities : List ε)
    (hentities : entities.length < UInt64.size) (clauses : List SortClause) (fields : List String)
    (paging : Paging) (filters : Filters) (perPage : Option UInt64) (s : σ) :
    let unpaged := fun page =>
      (searchWith named entities clauses fields none { filters, page, perPage }).outcome s
    let shown := fun page =>
      (searchWith named entities clauses fields (some paging) { filters, page, perPage }).outcome s
    let full := wholeResult named entities clauses fields filters
    let asked := askedWindow named fields filters
    let limit := (paging.window none perPage).limit.toNat
    (∀ page, unpaged page = full.map fun found => asked.elim found fun window => window.cut found) ∧
    (asked = none → ∀ page, unpaged page = full) ∧ (LeaveWhole named → asked = none) ∧
    (∀ e page, unpaged page = .error e ↔ full = .error e) ∧
    (∀ page, (paging.window page perPage).limit.toNat = limit) ∧ 0 < limit ∧
    shown (some 0) = shown (some 1) ∧ shown none = shown (some 1) ∧
    (∀ e, full = .error e → ∀ page, shown page = .error e) ∧
    ∀ found, full = .ok found →
      let part := fun p : UInt64 => (found.zipIdx.filter fun entry =>
        (p.toNat - 1) * limit ≤ entry.2 ∧ entry.2 < p.toNat * limit).map Prod.fst
      (∀ p, 1 ≤ p → shown (some p) = .ok (part p)) ∧
      (∀ n < UInt64.size, found.length ≤ n * limit →
        (List.range n).flatMap (fun i => part (UInt64.ofNat (i + 1))) = found) ∧
      found.length ≤ (UInt64.size - 1) * limit ∧
      (∀ i < found.length, ∃! p : UInt64,
        1 ≤ p ∧ (p.toNat - 1) * limit ≤ i ∧ i < p.toNat * limit) ∧
      ∀ p, found.length ≤ (p.toNat - 1) * limit → part p = [] := by
  intro unpaged shown full asked limit
  have hlimit : limit = paging.limit perPage := paging.toNat_limit none perPage
  have hpos : 0 < limit := by
    rw [hlimit]
    exact paging.limit_pos perPage
  have hunpaged : ∀ page, unpaged page =
      full.map fun found => asked.elim found fun window => window.cut found := fun page =>
    outcome_unpaged named entities clauses fields { filters, page, perPage } s
  have hshown : ∀ page, shown page = full.map (paging.window page perPage).cut := fun page =>
    outcome_paged named entities clauses fields paging { filters, page, perPage } s
  refine ⟨hunpaged, fun hnone page => ?_, fun hnamed => hnamed.askedWindow fields filters,
    fun e page => ?_, fun page => ?_, hpos, ?_, ?_, fun e he page => ?_, ?_⟩
  · rw [hunpaged, hnone]
    cases full <;> rfl
  · rw [hunpaged]
    cases full <;> simp [Except.map]
  · rw [hlimit, Paging.toNat_limit]
  · rw [hshown, hshown, Paging.window_zero]
  · rw [hshown, hshown, Paging.window_none]
  · rw [hshown, he]
    rfl
  · intro found hfound part
    have hlength : found.length < UInt64.size :=
      Nat.lt_of_le_of_lt (length_wholeResult_le hfound) hentities
    refine ⟨fun p hp => ?_, fun n hn hcover => ?_, ?_, fun i hi => ?_, fun p hp => ?_⟩
    · rw [hshown, hfound]
      show Except.ok ((paging.window (some p) perPage).cut found) = _
      rw [Paging.cut_window paging perPage hp hlength, ← hlimit]
      rfl
    · exact flatMap_numbered hn hcover
    · exact Nat.le_trans (by omega) (Nat.le_mul_of_pos_right _ hpos)
    · exact existsUnique_page hpos (by omega)
    · exact between_eq_nil hp _

/-- Two rows stand on the first page and one on the second. The page size is the least one, as no
page is empty and the upper bound is below the lower one; the number of entities before the last
page of all is more than a word holds. -/
theorem pages_tile_whole_result_last_page :
    let lamp : Row := ⟨[("name", .string "lamp"), ("price", .signed 20)]⟩
    let sofa : Row := ⟨[("name", .string "sofa"), ("price", .signed 90)]⟩
    let desk : Row := ⟨[("name", .string "desk"), ("price", .signed 20)]⟩
    let named : NamedFilters (Query Row) :=
      testFilters ((∅ : OrderedMap _).insert "any" fun _ _ => true)
    let filters : Filters := .ofList [("price_gte", .signed 15), ("any", .null)]
    let unpaged := (searchWith named [lamp, sofa, desk] [] ["price"] none
      { filters, page := none, perPage := some 0 }).outcome ()
    let shown := fun page : UInt64 => (searchWith named [lamp, sofa, desk] [] ["price"]
      (some ⟨20, 2, 1⟩) { filters, page := some page, perPage := some 0 }).outcome ()
    [lamp, sofa, desk].length < UInt64.size ∧ unpaged = .ok [lamp, sofa, desk] ∧
      shown 1 = .ok [lamp, sofa] ∧ shown 2 = .ok [desk] ∧ shown 0xffffffffffffffff = .ok [] := by
  intro lamp sofa desk named filters unpaged shown
  have hlength : [lamp, sofa, desk].length < UInt64.size := by decide
  obtain ⟨-, hfull, hleave, -, -, -, -, -, -, hpages⟩ :=
    pages_tile_whole_result named [lamp, sofa, desk] hlength [] ["price"] ⟨20, 2, 1⟩ filters
      (some 0) ()
  have hnamed : LeaveWhole named := leaveWhole_testFilters _
  have hunpaged : unpaged = .ok (sort [] [lamp, sofa, desk]) := rfl
  have hsort : sort [] [lamp, sofa, desk] = [lamp, sofa, desk] :=
    List.mergeSort_of_pairwise (List.pairwise_of_forall fun _ _ => rfl)
  rw [hsort] at hunpaged
  obtain ⟨hshown, -⟩ := hpages _ ((hfull (hleave hnamed) none).symm.trans hunpaged)
  exact ⟨hlength, hunpaged, hshown 1 (by decide), hshown 2 (by decide), hshown _ (by decide)⟩

/-- A filter that asks for the first row alone is heeded without paging, where one row is found. But
with two rows to a page the first page shows two of them and the second page a third, as the windows
of the pages take the place of the one that the filter asks for. -/
theorem page_overruns_window :
    let lamp : Row := ⟨[("name", .string "lamp")]⟩
    let sofa : Row := ⟨[("name", .string "sofa")]⟩
    let desk : Row := ⟨[("name", .string "desk")]⟩
    let named : NamedFilters (Query Row) :=
      (∅ : OrderedMap _).insert "first" fun query _ => query.cutTo ⟨0, 1⟩
    let filters : Filters := .ofList [("first", .bool true)]
    let paging : Paging := { perPage := 2 }
    let unpaged := (searchWith named [lamp, sofa, desk] [] [] none { filters }).outcome ()
    let shown := fun page : UInt64 =>
      (searchWith named [lamp, sofa, desk] [] [] (some paging)
        { filters, page := some page }).outcome ()
    let limit := (paging.window none none).limit.toNat
    unpaged = .ok [lamp] ∧ shown 1 = .ok [lamp, sofa] ∧ shown 2 = .ok [desk] ∧ limit = 2 ∧
      shown 1 ≠ unpaged.map (between 0 limit) ∧
      shown 2 ≠ unpaged.map (between limit (2 * limit)) := by
  intro lamp sofa desk named filters paging unpaged shown limit
  have hsort : sort [] [lamp, sofa, desk] = [lamp, sofa, desk] :=
    List.mergeSort_of_pairwise (List.pairwise_of_forall fun _ _ => rfl)
  have hunpaged : unpaged = .ok ((sort [] [lamp, sofa, desk]).take 1) := rfl
  have hfirst : shown 1 = .ok ((sort [] [lamp, sofa, desk]).take 2) := rfl
  have hsecond : shown 2 = .ok (((sort [] [lamp, sofa, desk]).drop 2).take 2) := rfl
  rw [hsort] at hunpaged hfirst hsecond
  refine ⟨hunpaged, hfirst, hsecond, rfl, ?_, ?_⟩
  · rw [hunpaged, hfirst]
    exact fun h => nomatch (Except.ok.inj h : [lamp, sofa] = [lamp])
  · rw [hunpaged, hsecond]
    exact fun h => nomatch (Except.ok.inj h : [desk] = [])

end KeyedFilter.Memory
