import KeyedFilter.Request.Discovery
import KeyedFilter.Proofs.Document.Yaml
import KeyedFilter.Proofs.Request.Refusal
import KeyedFilter.Proofs.Traversal

/-!
# Discovery in JSON and in YAML

A JSON value and the same value in YAML hold the same requests. A fragment that cannot be read is
refused for the same cause in both, and said to be so in the same words, unless a double stands in
the place of a count and the two kinds of documents write it differently.

* `Request.decodeYaml_ofJson`: a fragment is read alike in both.
* `Request.decodeJson_wrongType`: what can be of the wrong type in a fragment.
* `Yaml.requests_ofJson`: the requests of a document.
-/

namespace KeyedFilter

/-! ### Fragments in order -/

section Fragments

variable {μ ν : Type} {dialect : Dialect} {decode : ν → Except Refusal Request}

/-- Either every fragment is read, or there is a first one that is not. -/
theorem readFragments_cases (decode : ν → Except Refusal Request) (fragments : List ν) :
    (∃ requests, List.Forall₂ (fun fragment request => decode fragment = .ok request)
      fragments requests ∧
        ∀ dialect, readFragments dialect decode fragments = .ok requests) ∨
    ∃ before fragment after refusal, fragments = before ++ fragment :: after ∧
      (∀ earlier ∈ before, ∃ request, decode earlier = .ok request) ∧
      decode fragment = .error refusal ∧
      ∀ dialect, readFragments dialect decode fragments =
        .error (.invalidParams (refusal.message dialect)) := by
  have hok : ∀ {fragment request} dialect, decode fragment = .ok request →
      ((decode fragment).mapError fun refusal =>
        FilterError.invalidParams (refusal.message dialect)) = .ok request := by
    intro fragment request dialect h
    rw [h]
    rfl
  cases hread : fragments.mapM decode with
  | ok requests =>
    rw [mapM_eq_ok_iff] at hread
    exact .inl ⟨requests, hread, fun dialect => mapM_eq_ok_iff.2 (hread.imp fun _ _ => hok dialect)⟩
  | error refusal =>
    obtain ⟨before, fragment, after, rfl, hbefore, hfragment⟩ := mapM_eq_error_iff.1 hread
    refine .inr ⟨before, fragment, after, refusal, rfl, hbefore, hfragment, fun dialect =>
      mapM_eq_error_iff.2 ⟨before, fragment, after, rfl, fun earlier hearlier => ?_, ?_⟩⟩
    · obtain ⟨request, hrequest⟩ := hbefore earlier hearlier
      exact ⟨request, hok dialect hrequest⟩
    · rw [hfragment]
      rfl

/-- Fragments that are read alike give the same requests. -/
theorem readFragments_map {decode' : μ → Except Refusal Request} (f : μ → ν) {fragments : List μ}
    (h : ∀ fragment ∈ fragments, decode (f fragment) = decode' fragment) :
    readFragments dialect decode (fragments.map f) = readFragments dialect decode' fragments := by
  rw [readFragments, readFragments, List.mapM_map]
  refine mapM_congr fun fragment hfragment => ?_
  rw [Function.comp_apply, h fragment hfragment]

end Fragments

/-! ### One fragment -/

namespace Filters

/-- Filters are read alike in both kinds of documents. -/
theorem decodeYaml_ofJson {members : List (String × Json)}
    (h : ∀ member ∈ members, member.2.IsValue) :
    decodeYaml (Yaml.ofJson (.object members)) = decodeJson (.object members) := by
  have hentry : ∀ member ∈ members, ∀ filters : Filters,
      filters.decodeEntry (.string member.1, Yaml.ofJson member.2) =
        filters.decodeMember member := by
    intro member hmember filters
    rw [decodeEntry, Yaml.toJson_ofJson (h member hmember)]
    rfl
  exact Yaml.foldlM_ofMembers hentry ∅

theorem decodeJson_object_eq_error {members : List (String × Json)} {refusal : Refusal}
    (h : decodeJson (.object members) = .error refusal) : ∃ error, refusal = .unusable error := by
  obtain ⟨member, -, filters, hmember⟩ := exists_of_foldlM_eq_error h
  rw [decodeMember] at hmember
  cases hinsert : filters.insertMember member with
  | error error =>
    rw [hinsert] at hmember
    exact ⟨error, (Except.error.inj hmember).symm⟩
  | ok filters' =>
    rw [hinsert] at hmember
    cases hmember

end Filters

theorem RequestField.named?_eq_filter {name : String} (h : named? name = some .filter) :
    name = "filter" := by
  unfold named? at h
  split at h <;> first | rfl | cases h

theorem Found.toOptionalCount_wrongType {found found' : Found} {wanted : Wanted}
    (h : found.toOptionalCount = .error (.wrongType found' wanted)) :
    wanted = .count ∧ found' ≠ .null := by
  cases found with
  | null => cases h
  | integer n =>
    simp only [toOptionalCount, toCount] at h
    split_ifs at h <;> cases h
  | _ =>
    cases h
    exact ⟨rfl, nofun⟩

namespace Draft

theorem checkNew_eq_error {draft : Draft} {field : RequestField} {refusal : Refusal}
    (h : draft.checkNew field = .error refusal) : refusal = .repeatedField field.name := by
  unfold checkNew at h
  split_ifs at h
  exact (Except.error.inj h).symm

theorem set_eq_error {draft : Draft} {readFilters : Except Refusal Filters}
    {readCount : Except Refusal (Option UInt64)} {field : RequestField} {refusal : Refusal}
    (h : draft.set readFilters readCount field = .error refusal) :
    field = .filter ∧ readFilters = .error refusal ∨
      field ≠ .filter ∧ readCount = .error refusal := by
  cases field with
  | filter =>
    cases readFilters with
    | ok filters => cases h
    | error refusal' =>
      cases h
      exact .inl ⟨rfl, rfl⟩
  | page | perPage =>
    cases readCount with
    | ok count => cases h
    | error refusal' =>
      cases h
      exact .inr ⟨nofun, rfl⟩

end Draft

namespace Request

theorem decodeYamlCount_ofJson (json : Json) :
    decodeYamlCount (Yaml.ofJson json) = json.found.toOptionalCount := by
  cases json with
  | number n => cases n <;> rfl
  | _ => rfl

theorem decodeYamlEntry_ofJson {member : String × Json} (hvalue : member.2.IsValue)
    (hfilter : member.1 = "filter" → member.2.isObject) (draft : Draft) :
    decodeYamlEntry draft (.string member.1, Yaml.ofJson member.2) =
      decodeJsonMember draft member := by
  obtain ⟨name, value⟩ := member
  have hname : (Yaml.string name).keyText .fieldName = .ok name := rfl
  rw [decodeYamlEntry, hname, decodeJsonMember]
  simp only [bind, Except.bind]
  cases hfield : RequestField.named? name with
  | none => rfl
  | some field =>
    simp only [decodeJsonField, decodeYamlCount_ofJson]
    cases field with
    | page | perPage => rfl
    | filter =>
      -- a null has no filters in YAML and is refused in JSON, but here stands an object
      have hobject := hfilter (RequestField.named?_eq_filter hfield)
      cases hvalue with
      | null | bool | number | string | array => exact absurd hobject Bool.false_ne_true
      | object hkeys hmembers => rw [Filters.decodeYaml_ofJson hmembers]; rfl

/-- **A fragment is read alike in JSON and in YAML.** -/
theorem decodeYaml_ofJson {fragment : Json} (h : fragment.IsValue)
    (hholds : fragment.holdsFilters) :
    decodeYaml (Yaml.ofJson fragment) = decodeJson fragment := by
  obtain ⟨members, rfl, hmembers, hfilter⟩ := h.exists_members hholds
  exact congrArg (Except.map Draft.finish) (Yaml.foldlM_ofMembers
    (fun member hmember => decodeYamlEntry_ofJson (hmembers member hmember)
      (hfilter member hmember)) {})

theorem decodeJsonMember_wrongType {draft : Draft} {member : String × Json} {found : Found}
    {wanted : Wanted} (hfilter : member.1 = "filter" → member.2.isObject)
    (h : decodeJsonMember draft member = .error (.wrongType found wanted)) :
    wanted = .count ∧ found ≠ .null := by
  obtain ⟨name, value⟩ := member
  rw [decodeJsonMember] at h
  cases hfield : RequestField.named? name with
  | none =>
    rw [hfield] at h
    cases h
  | some field =>
    rw [hfield] at h
    simp only [decodeJsonField] at h
    cases hnew : draft.checkNew field with
    | error refusal =>
      rw [hnew] at h
      obtain rfl := Draft.checkNew_eq_error hnew
      cases h
    | ok =>
      rw [hnew] at h
      obtain ⟨rfl, hread⟩ | ⟨-, hread⟩ := Draft.set_eq_error h
      · have hobject := hfilter (RequestField.named?_eq_filter hfield)
        cases value with
        | object members =>
          obtain ⟨error, hunusable⟩ := Filters.decodeJson_object_eq_error hread
          cases hunusable
        | _ => exact absurd hobject Bool.false_ne_true
      · exact Found.toOptionalCount_wrongType hread

/-- Where a fragment is refused for a wrong type, something other than a null stands in the place of
a count. -/
theorem decodeJson_wrongType {fragment : Json} (h : fragment.IsValue)
    (hholds : fragment.holdsFilters) {found : Found} {wanted : Wanted}
    (hrefused : decodeJson fragment = .error (.wrongType found wanted)) :
    wanted = .count ∧ found ≠ .null := by
  obtain ⟨members, rfl, hmembers, hfilter⟩ := h.exists_members hholds
  rw [decodeJson] at hrefused
  cases hread : members.foldlM decodeJsonMember {} with
  | ok draft =>
    rw [hread] at hrefused
    cases hrefused
  | error refusal =>
    rw [hread] at hrefused
    cases hrefused
    obtain ⟨member, hmember, draft, hstep⟩ := exists_of_foldlM_eq_error hread
    exact decodeJsonMember_wrongType (hfilter member hmember) hstep

end Request

/-! ### Documents -/

namespace Yaml

theorem requests_ofJson_eq {json : Json} (h : json.IsValue) :
    (ofJson json).requests = readFragments .yaml Request.decodeJson json.fragments := by
  rw [requests, containers_ofJson, h.containers_isFilterEntry]
  apply readFragments_map
  intro fragment hfragment
  rw [Json.fragments, List.mem_filter] at hfragment
  exact Request.decodeYaml_ofJson (h.of_mem_nodes hfragment.1) hfragment.2

/-- **A JSON value and the same value in YAML hold the same requests**, one for each object with an
object under `filter`, in pre-order. If some of these cannot be read, both documents are refused
because of the first of them, for the same cause. The words are the same too, except for a double
that stands in the place of a count and is written differently. -/
theorem requests_ofJson (json : Json) (h : json.IsValue) :
    (∃ requests, List.Forall₂ (fun fragment request => Request.decodeJson fragment = .ok request)
        json.fragments requests ∧
      json.requests = .ok requests ∧ (ofJson json).requests = .ok requests) ∨
    ∃ before fragment after refusal, json.fragments = before ++ fragment :: after ∧
      (∀ earlier ∈ before, ∃ request, Request.decodeJson earlier = .ok request) ∧
      Request.decodeJson fragment = .error refusal ∧
      json.requests = .error (.invalidParams (refusal.message .json)) ∧
      (ofJson json).requests = .error (.invalidParams (refusal.message .yaml)) ∧
      (refusal.message .json = refusal.message .yaml ∨
        ∃ x, refusal = .wrongType (.double x) .count ∧ ¬x.WrittenAlike) := by
  have hjson : json.requests = readFragments .json Request.decodeJson json.fragments := by
    rw [Json.requests, h.containers_isFilterEntry]
  rw [hjson, requests_ofJson_eq h]
  obtain ⟨requests, hrequests, hread⟩ |
      ⟨before, fragment, after, refusal, hsplit, hbefore, hrefused, hread⟩ :=
    readFragments_cases Request.decodeJson json.fragments
  · exact .inl ⟨requests, hrequests, hread .json, hread .yaml⟩
  · refine .inr ⟨before, fragment, after, refusal, hsplit, hbefore, hrefused, hread .json,
      hread .yaml, ?_⟩
    have hfragment : fragment ∈ json.fragments := by simp [hsplit]
    rw [Json.fragments, List.mem_filter] at hfragment
    -- only a wrong type is worded by the kind of document, and in a fragment it is never a null
    by_cases hdouble : ∃ x, refusal = .wrongType (.double x) .count ∧ ¬x.WrittenAlike
    · exact .inr hdouble
    · left
      apply Refusal.message_json_eq
      rintro found wanted rfl
      obtain ⟨rfl, hnull⟩ :=
        Request.decodeJson_wrongType (h.of_mem_nodes hfragment.1) hfragment.2 hrefused
      refine ⟨hnull, ?_⟩
      rintro x rfl
      by_contra hx
      exact hdouble ⟨x, rfl, hx⟩

/-- A fragment beside the filters of another one. -/
theorem requests_ofJson_nested :
    let inner : Json := .object [("filter", .object []), ("page", .null)]
    let outer : Json := .object [("filter", .object [("price_lt", .number (.unsigned 15))]),
      ("per_page", .number (.unsigned 5)), ("wide", inner)]
    let json : Json := .object [("boards", .array [.bool true, outer])]
    json.IsValue ∧ ∃ requests, requests.length = 2 ∧ json.requests = .ok requests ∧
      (ofJson json).requests = .ok requests := by
  intro inner outer json
  have hinner : inner.IsValue := by
    refine .object (by decide) ?_
    simp only [List.forall_mem_cons]
    exact ⟨.object .nil nofun, .null, nofun⟩
  have houter : outer.IsValue := by
    refine .object (by decide) ?_
    simp only [List.forall_mem_cons]
    refine ⟨.object (by decide) ?_, .number rfl, hinner, nofun⟩
    simp only [List.forall_mem_cons]
    exact ⟨.number rfl, nofun⟩
  have hjson : json.IsValue := by
    refine .object (by decide) ?_
    simp only [List.forall_mem_cons]
    refine ⟨.array ?_, nofun⟩
    simp only [List.forall_mem_cons]
    exact ⟨.bool true, houter, nofun⟩
  refine ⟨hjson, ?_⟩
  obtain ⟨requests, hrequests, hread⟩ | ⟨_, _, _, refusal, _, _, _, hread, _⟩ :=
    requests_ofJson json hjson
  · have hfragments : json.fragments = [outer, inner] := rfl
    exact ⟨requests, by simpa [hfragments] using hrequests.length_eq.symm, hread⟩
  · cases hread

/-- **A small number as the page is refused in other words**: JSON writes it with an exponent, YAML
does not. -/
theorem small_page_said_differently :
    let json : Json :=
      .object [("filter", .object []), ("page", .number (.double ⟨0x3eb0c6f7a0b5ed8d⟩))]
    json.IsValue ∧
      json.requests = .error (.invalidParams
        "invalid type: floating point `1e-6`, expected u64") ∧
      (ofJson json).requests = .error (.invalidParams
        "invalid type: floating point `0.000001`, expected u64") ∧
      json.requests ≠ (ofJson json).requests := by
  intro json
  have hvalue : json.IsValue := by
    refine .object (by decide) ?_
    simp only [List.forall_mem_cons]
    exact ⟨.object .nil nofun, .number rfl, nofun⟩
  have hjson : json.requests = .error (.invalidParams
      "invalid type: floating point `1e-6`, expected u64") := rfl
  have hyaml : (ofJson json).requests = .error (.invalidParams
      "invalid type: floating point `0.000001`, expected u64") := rfl
  refine ⟨hvalue, hjson, hyaml, ?_⟩
  rw [hjson, hyaml]
  intro heq
  have htext := FilterError.invalidParams.inj (Except.error.inj heq)
  exact absurd htext (by decide)

end Yaml

end KeyedFilter
