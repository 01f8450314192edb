import KeyedFilter.Request.Refusal

/-!
# The words of refusals

A refusal of a JSON document and one of a YAML document are said alike, unless a null or a double
was found. Doubles are written alike where neither text needs an exponent and a single decimal is
the nearest one among the shortest.

* `Binary64.WrittenAlike`: the doubles with one text for both.
* `Refusal.message_json_eq`: when a refusal is said alike.
-/

namespace KeyedFilter

/-- The doubles that JSON and YAML write alike: the shortest decimal is the same whatever the rule
for ties, and JSON writes it without an exponent. -/
structure Binary64.WrittenAlike (x : Binary64) : Prop where
  tie : x.shortest .even = x.shortest .up
  least : -5 ≤ (x.shortest .even).leadingExponent
  greatest : (x.shortest .even).leadingExponent ≤ 15

namespace DecimalLayout

theorem writeDecimal_document_eq {x : Decimal} (hleast : -5 ≤ x.leadingExponent)
    (hgreatest : x.leadingExponent ≤ 15) : document.writeDecimal x = plain.writeDecimal x := by
  rw [Decimal.leadingExponent] at hleast hgreatest
  simp [writeDecimal, document, plain, hleast, hgreatest]

theorem write_document_eq {x : Binary64} (h : x.WrittenAlike) :
    document.write x = plain.write x := by
  have heven : document.tie = .even := rfl
  have hup : plain.tie = .up := rfl
  unfold write
  rw [heven, hup, writeDecimal_document_eq h.least h.greatest, h.tie]

end DecimalLayout

theorem Found.describe_json_eq {found : Found} (hnull : found ≠ .null)
    (hdouble : ∀ x, found = .double x → x.WrittenAlike) :
    found.describe .json = found.describe .yaml := by
  cases found with
  | null => exact absurd rfl hnull
  | double x =>
    exact congrArg (fun text => "floating point `" ++ text ++ "`")
      (DecimalLayout.write_document_eq (hdouble x rfl))
  | _ => rfl

/-- A refusal is said alike in both kinds of documents unless it is about a null or about a double
that they do not write alike. -/
theorem Refusal.message_json_eq {refusal : Refusal}
    (h : ∀ found wanted, refusal = .wrongType found wanted →
      found ≠ .null ∧ ∀ x, found = .double x → x.WrittenAlike) :
    refusal.message .json = refusal.message .yaml := by
  cases refusal with
  | wrongType found wanted =>
    obtain ⟨hnull, hdouble⟩ := h found wanted rfl
    exact congrArg (fun text => "invalid type: " ++ text ++ ", expected " ++ wanted.describe)
      (Found.describe_json_eq hnull hdouble)
  | _ => rfl

end KeyedFilter
