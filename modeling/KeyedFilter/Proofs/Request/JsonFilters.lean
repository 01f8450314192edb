import KeyedFilter.Request.FilterReading
import KeyedFilter.Proofs.Document.Json
import KeyedFilter.Proofs.Number.Word
import KeyedFilter.Proofs.OrderedMap

/-!
# The readers of filters in JSON

Filters are read from the entries of a document one after the other, or from the value that the
document stands for, in which every key has its last value and the keys are in order. An entry that
is overridden later is still refused when it is no scalar, but nothing is left of it in the value.
Apart from that, a key has the same operand in both.

* `Json.Gives`: the operand that a scalar gives.
* `ofJson_object_cases`: what the plain reader makes of an object.
* `decodeMembers_eq`: the reader for documents takes the same steps.
* `document_and_value_agree`: the entries of a document and the value that they stand for.
-/

namespace KeyedFilter

/-! ### Operands -/

/-- The operand that a scalar gives. A whole number is a signed word where one holds it. -/
inductive Json.Gives : Json → Scalar → Prop
  | null : Gives .null .null
  | bool (b : Bool) : Gives (.bool b) (.bool b)
  | string (s : String) : Gives (.string s) (.string s)
  | signed (n : Int64) : Gives (.number (.signed n)) (.number (.signed n))
  | small {n : UInt64} {k : Int64} (h : k.toInt = n.toNat) :
      Gives (.number (.unsigned n)) (.number (.signed k))
  | large {n : UInt64} (h : 2 ^ 63 ≤ n.toNat) :
      Gives (.number (.unsigned n)) (.number (.unsigned n))
  | double (x : Binary64) : Gives (.number (.double x)) (.number (.double x))

theorem Json.Gives.isContainer {json : Json} {operand : Scalar} (h : json.Gives operand) :
    json.isContainer = false := by
  cases h <;> rfl

/-- Nothing is to be made of a tree that gives an operand. -/
theorem Json.gives_canonical_iff {json : Json} {operand : Scalar} :
    json.canonical.Gives operand ↔ json.Gives operand := by
  constructor
  · intro h
    rwa [Json.canonical_eq_self (json.isContainer_canonical.symm.trans h.isContainer)] at h
  · intro h
    rwa [Json.canonical_eq_self h.isContainer]

namespace Scalar

theorem ofJson_eq_ok_iff {json : Json} {operand : Scalar} :
    ofJson json = .ok operand ↔ json.Gives operand := by
  constructor
  · intro h
    cases json with
    | null | bool | string =>
      cases h
      constructor
    | number n =>
      cases h
      cases n with
      | signed n => exact .signed n
      | double x => exact .double x
      | unsigned n =>
        rcases Nat.lt_or_ge n.toNat (2 ^ 63) with hsmall | hlarge
        · obtain ⟨k, hk⟩ := Number.exists_toInt_eq hsmall
          rw [Number.normalize_of_toInt_eq hk]
          exact .small hk
        · rw [Number.normalize_of_le hlarge]
          exact .large hlarge
    | array | object => cases h
  · intro h
    cases h with
    | null | bool | string | signed | double => rfl
    | small hk => rw [ofJson, Number.normalize_of_toInt_eq hk]
    | large hlarge => rw [ofJson, Number.normalize_of_le hlarge]

theorem ofJson_of_isContainer {json : Json} (h : json.isContainer = true) :
    ofJson json =
      .error (.invalidParams ("filter values must be scalars, got " ++ json.compact)) := by
  cases json with
  | array | object => rfl
  | _ => exact absurd h Bool.false_ne_true

theorem exists_ofJson {json : Json} (h : json.isContainer = false) :
    ∃ operand, ofJson json = .ok operand := by
  cases json with
  | array | object => exact absurd h.symm Bool.false_ne_true
  | _ => exact ⟨_, rfl⟩

end Scalar

namespace Filters

/-- Under each key the filters hold what the last value there gives. -/
def GivenBy (members : List (String × Json)) (filters : Filters) : Prop :=
  ∀ key operand, filters.get? key = some operand ↔
    ∃ json, members.reverse.lookup key = some json ∧ json.Gives operand

theorem GivenBy.get?_eq {members : List (String × Json)} {filters filters' : Filters}
    (h : GivenBy members filters) (h' : GivenBy members filters') (key : String) :
    filters.get? key = filters'.get? key := by
  apply Option.ext
  intro operand
  rw [h key operand, h' key operand]

/-! ### Objects -/

theorem ofJson_concat (members : List (String × Json)) (member : String × Json) :
    ofJson (.object (members ++ [member])) =
      (ofJson (.object members)).bind (insertMember · member) := by
  simp only [ofJson, List.foldlM_append, List.foldlM_cons, List.foldlM_nil]
  cases members.foldlM insertMember ∅ with
  | error => rfl
  | ok filters =>
    simp only [bind, Except.bind]
    cases insertMember filters member <;> rfl

/-- **An object is refused for the first value that is no scalar.** Otherwise each key stands where
it comes first and has its last value. -/
theorem ofJson_object_cases (members : List (String × Json)) :
    (∃ member, members.find? (fun member => member.2.isContainer) = some member ∧
      ofJson (.object members) = .error
        (.invalidParams ("filter values must be scalars, got " ++ member.2.compact))) ∨
    members.find? (fun member => member.2.isContainer) = none ∧
      ∃ filters, ofJson (.object members) = .ok filters ∧
        filters.keys = (members.map Prod.fst).eraseDups ∧ GivenBy members filters := by
  induction members using List.reverseRecOn with
  | nil => exact .inr ⟨rfl, ∅, rfl, rfl, fun _ _ => ⟨nofun, fun ⟨_, h, _⟩ => nomatch h⟩⟩
  | append_singleton members member ih =>
    rw [ofJson_concat, List.find?_append]
    rcases ih with ⟨first, hfirst, hrefused⟩ | ⟨hnone, filters, hread, hkeys, hget⟩
    · refine .inl ⟨first, by rw [hfirst, Option.some_or], ?_⟩
      rw [hrefused]
      rfl
    · rw [hnone, Option.none_or, hread]
      cases hcontainer : member.2.isContainer with
      | true =>
        refine .inl ⟨member, List.find?_cons_of_pos hcontainer, ?_⟩
        rw [Except.bind, insertMember, Scalar.ofJson_of_isContainer hcontainer]
        rfl
      | false =>
        obtain ⟨operand, hoperand⟩ := Scalar.exists_ofJson hcontainer
        refine .inr ⟨by simp [hcontainer], filters.insert member.1 operand, ?_, ?_,
          fun key operand' => ?_⟩
        · rw [Except.bind, insertMember, hoperand]
          rfl
        · simp only [OrderedMap.keys_insert, hkeys, List.map_append, List.map_singleton,
            OrderedMap.eraseDups_concat, List.mem_eraseDups]
        · rw [OrderedMap.get?_insert, List.reverse_concat, OrderedMap.lookup_cons_entry]
          split_ifs
          · have hgives : member.2.Gives operand' ↔ operand = operand' := by
              rw [← Scalar.ofJson_eq_ok_iff, hoperand, Except.ok.injEq]
            simp [hgives]
          · exact hget key operand'

theorem ofJson_object_eq_error_iff {members : List (String × Json)} {error : FilterError} :
    ofJson (.object members) = .error error ↔
      ∃ member, members.find? (fun member => member.2.isContainer) = some member ∧
        error = .invalidParams ("filter values must be scalars, got " ++ member.2.compact) := by
  rcases ofJson_object_cases members with ⟨member, hfirst, hrefused⟩ | ⟨hnone, filters, hread, -⟩
  · rw [hrefused, hfirst]
    simp [eq_comm]
  · rw [hread, hnone]
    simp

theorem of_ofJson_object {members : List (String × Json)} {filters : Filters}
    (h : ofJson (.object members) = .ok filters) :
    members.find? (fun member => member.2.isContainer) = none ∧
      filters.keys = (members.map Prod.fst).eraseDups ∧ GivenBy members filters := by
  rcases ofJson_object_cases members with ⟨member, -, hrefused⟩ | ⟨hnone, filters', hread, hfilters⟩
  · rw [hrefused] at h
    cases h
  · obtain rfl : filters' = filters := Except.ok.inj (hread.symm.trans h)
    exact ⟨hnone, hfilters⟩

theorem exists_ofJson_object {members : List (String × Json)}
    (h : members.find? (fun member => member.2.isContainer) = none) :
    ∃ filters, ofJson (.object members) = .ok filters := by
  cases hread : ofJson (.object members) with
  | ok filters => exact ⟨filters, rfl⟩
  | error error =>
    obtain ⟨member, hfirst, -⟩ := ofJson_object_eq_error_iff.1 hread
    rw [h] at hfirst
    cases hfirst

theorem foldlM_decodeMember (members : List (String × Json)) (filters : Filters) :
    members.foldlM decodeMember filters =
      (members.foldlM insertMember filters).mapError .unusable := by
  induction members generalizing filters with
  | nil => rfl
  | cons member rest ih =>
    rw [List.foldlM_cons, List.foldlM_cons, decodeMember]
    cases insertMember filters member with
    | error => rfl
    | ok next => exact ih next

/-- **The reader for documents reads what the plain reader does** and refuses for the same errors. -/
theorem decodeMembers_eq (members : List (String × Json)) :
    decodeMembers members = (ofJson (.object members)).mapError .unusable :=
  foldlM_decodeMember members ∅

theorem decodeMembers_eq_ok_iff {members : List (String × Json)} {filters : Filters} :
    decodeMembers members = .ok filters ↔ ofJson (.object members) = .ok filters := by
  rw [decodeMembers_eq]
  cases ofJson (.object members) <;> simp [Except.mapError]

theorem decodeMembers_eq_error_iff {members : List (String × Json)} {refusal : Refusal} :
    decodeMembers members = .error refusal ↔
      ∃ error, ofJson (.object members) = .error error ∧ refusal = .unusable error := by
  rw [decodeMembers_eq]
  cases ofJson (.object members) <;> simp [Except.mapError, eq_comm]

/-! ### Documents and their values -/

theorem lookup_reverse_canonicalMembers (members : List (String × Json)) (key : String) :
    (Json.canonicalMembers members).reverse.lookup key =
      (members.reverse.lookup key).map Json.canonical := by
  rw [Json.canonicalMembers_eq, ← List.map_reverse]
  induction members.reverse with
  | nil => rfl
  | cons member rest ih =>
    rw [List.map_cons, OrderedMap.lookup_cons_entry, ih, OrderedMap.lookup_cons_entry]
    split_ifs <;> rfl

theorem find?_canonicalMembers (members : List (String × Json)) :
    (Json.canonicalMembers members).find? (fun member => member.2.isContainer) =
      (members.find? fun member => member.2.isContainer).map fun member =>
        (member.1, member.2.canonical) := by
  rw [Json.canonicalMembers_eq, List.find?_map]
  simp only [Function.comp_def, Json.isContainer_canonical]

theorem keys_canonicalMembers (members : List (String × Json)) :
    (Json.canonicalMembers members).map Prod.fst = members.map Prod.fst := by
  rw [Json.canonicalMembers_eq, List.map_map]
  rfl

variable {members : List (String × Json)} {filters : Filters}

/-- What is inside a value that is read does not matter. -/
theorem givenBy_canonicalMembers :
    GivenBy (Json.canonicalMembers members) filters ↔ GivenBy members filters := by
  refine forall₂_congr fun key operand => iff_congr .rfl ?_
  simp [lookup_reverse_canonicalMembers, Json.gives_canonical_iff]

/-- Sorted members stay as they are when they are sorted, so the last value under a key is the only
one there. -/
theorem givenBy_sortMembers :
    GivenBy (Json.sortMembers members) filters ↔ GivenBy members filters := by
  unfold GivenBy
  simp only [← Json.lookup_sortMembers, Json.sortMembers_eq_self (Json.pairwise_sortMembers members)]

/-- What is left in the value are entries of the document. -/
theorem find?_sortMembers
    (h : members.find? (fun member => member.2.isContainer) = none) :
    (Json.sortMembers members).find? (fun member => member.2.isContainer) = none := by
  rw [List.find?_eq_none] at h ⊢
  intro member hmember
  have hnodup := (Json.pairwise_sortMembers members).imp fun hlt => hlt.ne
  have hlookup := (OrderedMap.lookup_eq_some_iff hnodup).2 hmember
  rw [Json.lookup_sortMembers, List.lookup_eq_some_iff] at hlookup
  obtain ⟨after, before, hreverse, -⟩ := hlookup
  exact h member (List.mem_reverse.1 (by simp [hreverse]))

/-- A document is refused for the first entry that is no scalar. -/
theorem decodeMembers_canonicalMembers_eq_error_iff {refusal : Refusal} :
    decodeMembers (Json.canonicalMembers members) = .error refusal ↔
      ∃ entry, members.find? (fun entry => entry.2.isContainer) = some entry ∧
        refusal = .unusable (.invalidParams
          ("filter values must be scalars, got " ++ entry.2.canonical.compact)) := by
  simp only [decodeMembers_eq_error_iff, ofJson_object_eq_error_iff, find?_canonicalMembers,
    Option.map_eq_some_iff]
  constructor
  · rintro ⟨_, ⟨_, ⟨entry, hfirst, rfl⟩, rfl⟩, rfl⟩
    exact ⟨entry, hfirst, rfl⟩
  · rintro ⟨entry, hfirst, rfl⟩
    exact ⟨_, ⟨_, ⟨entry, hfirst, rfl⟩, rfl⟩, rfl⟩

/-- **The filters of a document and those of the value that it stands for.** In the value each key
has its last value, and the keys are in order. The entries of the document are refused for the first
of them that is no scalar, overridden or not; else each key stands where it comes first and has what
its last value gives. The two readers of the value agree: they refuse it for the first value in it
that is no scalar, and else the keys are in order and each has what its last value gives. What is
read from the entries is read from the value too, with the same operand under each key. -/
theorem document_and_value_agree (members : List (String × Json)) :
    let entries := Json.canonicalMembers members
    let value := (Json.object members).canonical
    (∃ sorted, value = .object sorted ∧ (sorted.map Prod.fst).Pairwise (· < ·) ∧
      (∀ key, sorted.lookup key = (members.reverse.lookup key).map Json.canonical) ∧
      ∀ error, ofJson value = .error error ↔
        ∃ entry, sorted.find? (fun entry => entry.2.isContainer) = some entry ∧
          error = .invalidParams ("filter values must be scalars, got " ++ entry.2.compact)) ∧
    (∀ refusal, decodeMembers entries = .error refusal ↔
      ∃ entry, members.find? (fun entry => entry.2.isContainer) = some entry ∧
        refusal = .unusable
          (.invalidParams ("filter values must be scalars, got " ++ entry.2.canonical.compact))) ∧
    (∀ filters, decodeMembers entries = .ok filters →
      filters.keys = (members.map Prod.fst).eraseDups ∧ GivenBy members filters) ∧
    decodeJson value = (ofJson value).mapError .unusable ∧
    (∀ filters, ofJson value = .ok filters →
      filters.keys.Pairwise (· < ·) ∧ GivenBy members filters) ∧
    ∀ filters, decodeMembers entries = .ok filters →
      ∃ sorted, ofJson value = .ok sorted ∧ decodeJson value = .ok sorted ∧
        ∀ key, sorted.get? key = filters.get? key := by
  intro entries value
  have hsorted := Json.pairwise_sortMembers entries
  have hcanonical : value = .object (Json.sortMembers entries) := by
    simp only [value, Json.canonical, entries]
  have hdecode : decodeJson value = (ofJson value).mapError .unusable := by
    rw [hcanonical]
    exact decodeMembers_eq _
  have hentries : ∀ filters, decodeMembers entries = .ok filters →
      filters.keys = (members.map Prod.fst).eraseDups ∧ GivenBy members filters := by
    intro filters h
    obtain ⟨-, hkeys, hgiven⟩ := of_ofJson_object (decodeMembers_eq_ok_iff.1 h)
    rw [keys_canonicalMembers] at hkeys
    exact ⟨hkeys, givenBy_canonicalMembers.1 hgiven⟩
  have hvalue : ∀ filters, ofJson value = .ok filters →
      filters.keys.Pairwise (· < ·) ∧ GivenBy members filters := by
    intro filters h
    rw [hcanonical] at h
    obtain ⟨-, hkeys, hgiven⟩ := of_ofJson_object h
    rw [OrderedMap.eraseDups_eq_self (hsorted.imp fun hlt => hlt.ne)] at hkeys
    exact ⟨hkeys ▸ hsorted, givenBy_canonicalMembers.1 (givenBy_sortMembers.1 hgiven)⟩
  refine ⟨⟨_, hcanonical, hsorted, fun key => ?_, fun error => ?_⟩,
    fun refusal => decodeMembers_canonicalMembers_eq_error_iff, hentries, hdecode, hvalue,
    fun filters h => ?_⟩
  · rw [Json.lookup_sortMembers, lookup_reverse_canonicalMembers]
  · rw [hcanonical, ofJson_object_eq_error_iff]
  · have hnone := (of_ofJson_object (decodeMembers_eq_ok_iff.1 h)).1
    obtain ⟨sorted, hread⟩ := exists_ofJson_object (find?_sortMembers hnone)
    rw [← hcanonical] at hread
    have hdecoded : decodeJson value = .ok sorted := by rw [hdecode, hread]; rfl
    exact ⟨sorted, hread, hdecoded, (hvalue sorted hread).2.get?_eq (hentries filters h).2⟩

/-- The price is given twice, and its last value is more than a signed word holds. In the second
document the name is a list at first: that is refused, though nothing of it is left in the value. -/
theorem document_and_value_agree_repeated_key :
    let members : List (String × Json) := [("price_gte", .number (.unsigned 15)),
      ("name_eq", .string "lamp"), ("price_gte", .number (.unsigned 0xffffffffffffffff))]
    let overridden : List (String × Json) := ("name_eq", .array [.null]) :: members
    let price : Scalar := .number (.unsigned 0xffffffffffffffff)
    (∃ filters sorted, decodeMembers (Json.canonicalMembers members) = .ok filters ∧
      filters.keys = ["price_gte", "name_eq"] ∧ filters.get? "price_gte" = some price ∧
      ofJson (Json.object members).canonical = .ok sorted ∧
      decodeJson (Json.object members).canonical = .ok sorted ∧
      sorted.keys.Pairwise (· < ·) ∧ sorted.get? "price_gte" = some price) ∧
    decodeMembers (Json.canonicalMembers overridden) = .error (.unusable (.invalidParams
      ("filter values must be scalars, got " ++ (Json.array [.null]).compact))) ∧
    ∃ sorted, ofJson (Json.object overridden).canonical = .ok sorted ∧
      sorted.get? "name_eq" = some (.string "lamp") := by
  intro members overridden price
  have hread : decodeMembers (Json.canonicalMembers members) =
      .ok (.ofList [("price_gte", price), ("name_eq", .string "lamp")]) := rfl
  obtain ⟨-, -, hentries, -, hvalue, hboth⟩ := document_and_value_agree members
  obtain ⟨hkeys, hgiven⟩ := hentries _ hread
  obtain ⟨sorted, hsorted, hdecode, hget⟩ := hboth _ hread
  have hlarge : 2 ^ 63 ≤ (0xffffffffffffffff : UInt64).toNat := by decide
  have hprice : _ = some price := (hgiven "price_gte" price).2 ⟨_, rfl, .large hlarge⟩
  have hoverridden : ofJson (Json.object overridden).canonical =
      .ok (.ofList [("name_eq", .string "lamp"), ("price_gte", price)]) := rfl
  obtain ⟨-, hrefused, -, -, hlast, -⟩ := document_and_value_agree overridden
  refine ⟨⟨_, sorted, hread, hkeys, hprice, hsorted, hdecode, (hvalue sorted hsorted).1,
    (hget "price_gte").trans hprice⟩, ?_, _, hoverridden, ?_⟩
  · exact (hrefused _).2 ⟨("name_eq", .array [.null]), rfl, rfl⟩
  · exact ((hlast _ hoverridden).2 "name_eq" (.string "lamp")).2 ⟨_, rfl, .string "lamp"⟩

end Filters

end KeyedFilter
