import KeyedFilter.Proofs.Document.Yaml
import KeyedFilter.Proofs.OrderedMap

/-!
# The two readers of filters in YAML

The plain reader takes operands out of the YAML tree itself, the reader for documents makes JSON of
each value first. Where both read a tree, they read the same filters, except for the doubles that
JSON does not have: a NaN or an infinity is kept by the plain reader and becomes a null in a
document.

* `Scalar.inJson`: what JSON makes of an operand.
* `exists_ofYaml_of_decodeYaml`: what the plain reader makes of a document.
* `yaml_readers_agree_iff`: when the two readers agree.
* `infinity_read_as_null`: an operand that they read differently.
-/

namespace KeyedFilter

/-! ### Numbers in JSON -/

/-- What JSON makes of an operand: a number that it does not have is a null there. -/
def Scalar.inJson : Scalar → Scalar
  | .number n => if n.isFinite then .number n else .null
  | operand => operand

theorem Scalar.inJson_eq_self_iff {operand : Scalar} :
    operand.inJson = operand ↔ ∀ x, operand = .number (.double x) →
      x.isNaN = false ∧ x.isInfinite = false := by
  cases operand with
  | number n =>
    cases n with
    | signed | unsigned => simp [inJson, Number.isFinite]
    | double x => simp [inJson, Number.isFinite]
  | _ => simp [inJson]

/-! ### Single entries -/

theorem Yaml.keyText_eq_ok_iff {key : Yaml} {wanted : Wanted} {s : String} :
    key.keyText wanted = .ok s ↔ key.text? = some s := by
  unfold keyText text?
  cases key.untagged <;> simp

/-- A value that becomes an operand by way of JSON is a scalar without tags. -/
theorem Scalar.ofYaml_of_toJson {yaml : Yaml} {json : Json} {operand : Scalar}
    (hjson : yaml.toJson = .ok json) (hoperand : Scalar.ofJson json = .ok operand) :
    ∃ plain, Scalar.ofYaml yaml = .ok plain ∧ operand = plain.inJson := by
  cases yaml with
  | null | bool | string =>
    obtain rfl := Except.ok.inj (hjson.symm.trans (by rw [Yaml.toJson]))
    exact ⟨operand, hoperand, by cases hoperand; rfl⟩
  | number n =>
    rw [Yaml.toJson, Json.ofNumber_eq] at hjson
    refine ⟨.number n.normalize, rfl, ?_⟩
    rw [inJson, Number.isFinite_normalize]
    cases hfinite : n.isFinite <;> rw [hfinite] at hjson <;> cases hjson <;> cases hoperand <;> rfl
  | sequence items =>
    rw [Yaml.toJson] at hjson
    cases hitems : Yaml.itemsToJson items <;> rw [hitems] at hjson <;> cases hjson
    cases hoperand
  | mapping entries =>
    rw [Yaml.toJson] at hjson
    cases hentries : Yaml.entriesToJson .memberName entries <;> rw [hentries] at hjson <;>
      cases hjson
    cases hoperand
  | tagged tag value =>
    rw [Yaml.toJson] at hjson
    cases hjson

namespace Filters

theorem decodeEntry_eq_ok {filters filters' : Filters} {entry : Yaml × Yaml}
    (h : filters.decodeEntry entry = .ok filters') :
    ∃ key json operand, entry.1.text? = some key ∧ entry.2.toJson = .ok json ∧
      Scalar.ofJson json = .ok operand ∧ filters' = filters.insert key operand := by
  unfold decodeEntry at h
  cases hkey : entry.1.keyText .string with
  | error refusal => simp [hkey, bind, Except.bind] at h
  | ok key =>
    cases hjson : entry.2.toJson with
    | error refusal => simp [hkey, hjson, bind, Except.bind] at h
    | ok json =>
      simp only [hkey, hjson, bind, Except.bind, decodeMember, insertMember] at h
      cases hoperand : Scalar.ofJson json with
      | error e =>
        rw [hoperand] at h
        cases h
      | ok operand =>
        rw [hoperand] at h
        exact ⟨key, json, operand, Yaml.keyText_eq_ok_iff.1 hkey, rfl, hoperand,
          (Except.ok.inj h).symm⟩

/-- An entry of a document is also an entry for the plain reader. -/
theorem insertEntry_of_decodeEntry {filters filters' : Filters} {entry : Yaml × Yaml}
    (h : decodeEntry (filters.mapValues Scalar.inJson) entry = .ok filters') :
    ∃ plain, filters.insertEntry entry = .ok plain ∧ filters' = plain.mapValues Scalar.inJson := by
  obtain ⟨key, json, operand, hkey, hjson, hoperand, rfl⟩ := decodeEntry_eq_ok h
  obtain ⟨plain, hplain, rfl⟩ := Scalar.ofYaml_of_toJson hjson hoperand
  refine ⟨filters.insert key plain, ?_, (OrderedMap.mapValues_insert _ _ _ _).symm⟩
  unfold insertEntry
  rw [hkey, hplain]
  rfl

theorem foldlM_insertEntry_of_decodeEntry {entries : List (Yaml × Yaml)}
    {filters filters' : Filters}
    (h : entries.foldlM decodeEntry (filters.mapValues Scalar.inJson) = .ok filters') :
    ∃ plain, entries.foldlM insertEntry filters = .ok plain ∧
      filters' = plain.mapValues Scalar.inJson := by
  -- at every entry, what the document has so far is what JSON makes of the plain filters so far
  induction entries generalizing filters with
  | nil => exact ⟨filters, rfl, (Except.ok.inj h).symm⟩
  | cons entry rest ih =>
    rw [List.foldlM_cons] at h ⊢
    cases hentry : decodeEntry (filters.mapValues Scalar.inJson) entry with
    | error refusal =>
      rw [hentry] at h
      cases h
    | ok next =>
      rw [hentry] at h
      obtain ⟨plain, hplain, rfl⟩ := insertEntry_of_decodeEntry hentry
      rw [hplain]
      exact ih h

/-- **What is read as filters in a document is read by the plain reader too**, a null in place of
filters apart. -/
theorem exists_ofYaml_of_decodeYaml {yaml : Yaml} {filters : Filters}
    (h : decodeYaml yaml = .ok filters) (hnull : yaml.untagged ≠ .null) :
    ∃ plain, ofYaml yaml = .ok plain ∧ filters = plain.mapValues Scalar.inJson := by
  unfold decodeYaml at h
  unfold ofYaml Yaml.entries?
  cases huntagged : yaml.untagged with
  | null => exact absurd huntagged hnull
  | mapping entries =>
    rw [huntagged] at h
    have hread : entries.foldlM decodeEntry (OrderedMap.mapValues Scalar.inJson ∅) =
        .ok filters := h
    exact foldlM_insertEntry_of_decodeEntry hread
  | _ =>
    rw [huntagged] at h
    cases h

/-- **The two readers of filters in YAML agree unless an operand is a NaN or an infinity**, which
only the plain reader keeps. Keys and their order are the same in any case. -/
theorem yaml_readers_agree_iff (yaml : Yaml) (plain filters : Filters)
    (hplain : ofYaml yaml = .ok plain) (hfilters : decodeYaml yaml = .ok filters) :
    filters = plain.mapValues Scalar.inJson ∧ filters.keys = plain.keys ∧
      (filters = plain ↔ ∀ entry ∈ plain.entries, ∀ x, entry.2 = .number (.double x) →
        x.isNaN = false ∧ x.isInfinite = false) := by
  have hnull : yaml.untagged ≠ .null := by
    intro hnull
    rw [ofYaml, Yaml.entries?, hnull] at hplain
    cases hplain
  obtain ⟨plain', hplain', rfl⟩ := exists_ofYaml_of_decodeYaml hfilters hnull
  obtain rfl : plain' = plain := Except.ok.inj (hplain'.symm.trans hplain)
  refine ⟨rfl, OrderedMap.keys_mapValues _ _, ?_⟩
  rw [OrderedMap.mapValues_eq_self_iff]
  exact forall₂_congr fun _ _ => Scalar.inJson_eq_self_iff

/-- A tagged key is read as the text in it. Here that key stands before, and gets another value. -/
theorem yaml_readers_agree_iff_repeated_key :
    let yaml : Yaml := .mapping [(.string "price_gt", .number (.unsigned 5)),
      (.string "name_eq", .string "lamp"),
      (.tagged "!key" (.string "price_gt"), .number (.double ⟨0x4002000000000000⟩))]
    ∃ plain filters, ofYaml yaml = .ok plain ∧ decodeYaml yaml = .ok filters ∧
      plain.entries = [("price_gt", .number (.double ⟨0x4002000000000000⟩)),
        ("name_eq", .string "lamp")] ∧ filters = plain := by
  intro yaml
  let read : Filters :=
    .ofList [("price_gt", .number (.double ⟨0x4002000000000000⟩)), ("name_eq", .string "lamp")]
  have hplain : ofYaml yaml = .ok read := rfl
  have hfilters : decodeYaml yaml = .ok read := rfl
  refine ⟨read, read, hplain, hfilters, rfl, ?_⟩
  refine (yaml_readers_agree_iff yaml read read hplain hfilters).2.2.2 ?_
  intro entry hentry x hx
  have hentries : read.entries = [("price_gt", .number (.double ⟨0x4002000000000000⟩)),
      ("name_eq", .string "lamp")] := rfl
  rw [hentries] at hentry
  simp only [List.mem_cons, List.not_mem_nil, or_false] at hentry
  rcases hentry with rfl | rfl
  · cases hx
    decide
  · cases hx

/-- **An infinity that is read as a null in a document.** Being equal to infinity becomes being
null. -/
theorem infinity_read_as_null :
    let yaml : Yaml := .mapping [(.string "price_eq", .number (.double (.infinite false)))]
    ∃ plain filters, ofYaml yaml = .ok plain ∧ decodeYaml yaml = .ok filters ∧
      plain.get? "price_eq" = some (.number (.double (.infinite false))) ∧
      filters.get? "price_eq" = some .null ∧ filters ≠ plain := by
  intro yaml
  refine ⟨.ofList [("price_eq", .number (.double (.infinite false)))],
    .ofList [("price_eq", .null)], rfl, rfl, rfl, rfl, ?_⟩
  intro h
  have hget := congrArg (OrderedMap.get? · "price_eq") h
  cases hget

end Filters

end KeyedFilter
