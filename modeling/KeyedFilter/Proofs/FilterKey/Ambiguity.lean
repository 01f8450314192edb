import Mathlib.Data.List.Basic
import KeyedFilter.Proofs.FilterKey

/-!
# Ambiguous filter keys

A token with its underscore ends another one only if that is its negation, so a text splits in two
ways only where a field name ends with `_not`: `name_not_eq` asks `not_eq` of `name` and `eq` of
`name_not`. The split with the longer token comes first, and the first one that names a declared
field is taken.

* `FilterKey.IsSplit`: a key is written so.
* `FilterKey.eq_or_negation`: two keys that are written alike.
* `FilterKey.parse_eq_ok_iff`, `FilterKey.parse_eq_unknownField_iff`,
  `FilterKey.parse_eq_invalidKey_iff`: the three outcomes.
* `FilterKey.parse_longest_declared`: how a text is read, and which keys are read as another one.
-/

namespace KeyedFilter

namespace Predicate

theorem token_negation (relation : Relation) :
    token ⟨relation, true⟩ = "not_" ++ token ⟨relation, false⟩ := by
  simp [token]

theorem length_token_lt (relation : Relation) :
    (token ⟨relation, false⟩).length < (token ⟨relation, true⟩).length := by
  rw [token_negation, String.length_append]
  exact Nat.lt_add_of_pos_left (by decide)

/-- Only the negation of a predicate has a token that ends with an underscore and its token. -/
theorem eq_or_negation_of_suffix {p q : Predicate}
    (h : '_' :: p.token.toList <:+ '_' :: q.token.toList) :
    p = q ∨ p.negated = false ∧ q = ⟨p.relation, true⟩ := by
  have htable : ∀ e ∈ table, ∀ e' ∈ table, '_' :: e.1.toList <:+ '_' :: e'.1.toList →
      e.2 = e'.2 ∨ e.2.negated = false ∧ e'.2 = ⟨e.2.relation, true⟩ := by
    decide
  exact htable _ (mem_table_iff.2 rfl) _ (mem_table_iff.2 rfl) h

end Predicate

namespace FilterKey

/-- The key consists of a field name and a predicate, and the text says so. -/
def IsSplit (text : String) (key : FilterKey) : Prop :=
  key.field ≠ "" ∧ text = key.field ++ "_" ++ key.predicate.token

theorem mem_splits_iff {text : String} {key : FilterKey} : key ∈ splits text ↔ IsSplit text key := by
  rw [mem_splits, IsSplit, FilterKey.text, eq_comm (a := text)]

theorem toList_text (key : FilterKey) :
    key.text.toList = key.field.toList ++ '_' :: key.predicate.token.toList := by
  simp [FilterKey.text]

theorem text_left_injective {f g : String} {p : Predicate}
    (h : (FilterKey.mk f p).text = (FilterKey.mk g p).text) : f = g := by
  rw [← String.toList_inj, toList_text, toList_text, List.append_left_inj] at h
  exact String.toList_inj.1 h

/-- A negated key can be read as one that is not negated, of a longer field name. -/
theorem text_negation (field : String) (relation : Relation) :
    (FilterKey.mk field ⟨relation, true⟩).text =
      (FilterKey.mk (field ++ "_not") ⟨relation, false⟩).text := by
  simp only [FilterKey.text, Predicate.token_negation]
  rw [← String.toList_inj]
  simp

/-- **Two keys that are written alike are the same**, or the one with the longer token negates the
other one and leaves the `not` out of the field name. -/
theorem eq_or_negation {a b : FilterKey} (h : a.text = b.text)
    (hlen : b.predicate.token.length ≤ a.predicate.token.length) :
    a = b ∨ ∃ relation, a.predicate = ⟨relation, true⟩ ∧ b = ⟨a.field ++ "_not", ⟨relation, false⟩⟩ := by
  obtain ⟨f, p⟩ := a
  obtain ⟨g, q⟩ := b
  have hsuffix : '_' :: q.token.toList <:+ '_' :: p.token.toList := by
    have hq : '_' :: q.token.toList <:+ (FilterKey.mk g q).text.toList := by
      rw [toList_text]
      exact List.suffix_append _ _
    have hp : '_' :: p.token.toList <:+ (FilterKey.mk g q).text.toList := by
      rw [← h, toList_text]
      exact List.suffix_append _ _
    refine List.suffix_of_suffix_length_le hq hp ?_
    simpa only [List.length_cons, String.length_toList, Nat.add_le_add_iff_right] using hlen
  rcases Predicate.eq_or_negation_of_suffix hsuffix with rfl | ⟨hnegated, rfl⟩
  · rw [text_left_injective h]
    exact .inl rfl
  · obtain ⟨relation, negated⟩ := q
    cases hnegated
    rw [text_negation] at h
    exact .inr ⟨relation, rfl, by rw [text_left_injective h]⟩

/-! ### The splits of a text -/

/-- Tokens are tried longest first, each once. -/
theorem splits_pairwise (text : String) :
    (splits text).Pairwise fun a b =>
      b.predicate.token.length ≤ a.predicate.token.length ∧ a.predicate ≠ b.predicate := by
  have htable : Predicate.table.Pairwise fun e e' =>
      e'.2.token.length ≤ e.2.token.length ∧ e.2 ≠ e'.2 := by decide
  refine htable.filterMap _ fun e e' he a ha b hb => ?_
  obtain ⟨f, -, rfl⟩ := Option.map_eq_some_iff.1 ha
  obtain ⟨g, -, rfl⟩ := Option.map_eq_some_iff.1 hb
  exact he

/-- **A text splits in no way, in one way, or as a negated key and the same key read without
negation.** -/
theorem splits_cases (text : String) :
    splits text = [] ∨ (∃ key, splits text = [key]) ∨
      ∃ field relation, splits text =
        [⟨field, ⟨relation, true⟩⟩, ⟨field ++ "_not", ⟨relation, false⟩⟩] := by
  have hpair := splits_pairwise text
  have htext : ∀ key ∈ splits text, key.text = text := fun key hkey => (mem_splits.1 hkey).2
  -- of two splits that follow each other, the second one is not negated and the first one is
  have hnext : ∀ a ∈ splits text, ∀ b ∈ splits text,
      b.predicate.token.length ≤ a.predicate.token.length ∧ a.predicate ≠ b.predicate →
      ∃ relation, a.predicate = ⟨relation, true⟩ ∧
        b = ⟨a.field ++ "_not", ⟨relation, false⟩⟩ := by
    rintro a ha b hb ⟨hlen, hne⟩
    refine (eq_or_negation ((htext a ha).trans (htext b hb).symm) hlen).resolve_left ?_
    rintro rfl
    exact hne rfl
  rcases hsplits : splits text with _ | ⟨a, _ | ⟨b, _ | ⟨c, rest⟩⟩⟩
  · exact .inl rfl
  · exact .inr (.inl ⟨a, rfl⟩)
  · rw [hsplits] at hpair hnext
    obtain ⟨relation, ha, rfl⟩ := hnext a (by simp) b (by simp) (by simpa using hpair)
    refine .inr (.inr ⟨a.field, relation, ?_⟩)
    rw [← ha]
  · rw [hsplits] at hpair hnext
    simp only [List.pairwise_cons, List.mem_cons, forall_eq_or_imp] at hpair
    obtain ⟨relation, -, hb⟩ := hnext a (by simp) b (by simp) hpair.1.1
    obtain ⟨relation', hb', -⟩ := hnext b (by simp) c (by simp) hpair.2.1.1
    rw [hb] at hb'
    cases hb'

/-- Two splits of a text with tokens of the same length are one. -/
theorem IsSplit.eq_of_length_eq {text : String} {a b : FilterKey} (ha : IsSplit text a)
    (hb : IsSplit text b) (h : a.predicate.token.length = b.predicate.token.length) : a = b := by
  refine (eq_or_negation (ha.2.symm.trans hb.2) (Nat.le_of_eq h.symm)).resolve_right ?_
  rintro ⟨relation, hpredicate, rfl⟩
  rw [hpredicate] at h
  exact Nat.ne_of_gt (Predicate.length_token_lt relation) h

/-! ### The outcomes of reading a text -/

variable {fields : List String} {text : String}

theorem find?_splits_eq_none_iff :
    ((splits text).find? fun key => fields.contains key.field) = none ↔
      ∀ key, IsSplit text key → key.field ∉ fields := by
  simp [mem_splits_iff]

/-- What is found has the longest token of all splits that were looked for. -/
theorem longest_of_find? {p : FilterKey → Bool} {found : FilterKey}
    (h : (splits text).find? p = some found) :
    IsSplit text found ∧ p found = true ∧ ∀ other, IsSplit text other → p other = true →
      other.predicate.token.length ≤ found.predicate.token.length := by
  obtain ⟨hp, before, after, hsplits, hbefore⟩ := List.find?_eq_some_iff_append.1 h
  have hpair := splits_pairwise text
  rw [hsplits, List.pairwise_append, List.pairwise_cons] at hpair
  refine ⟨mem_splits_iff.1 (by simp [hsplits]), hp, fun other hother hpother => ?_⟩
  rw [← mem_splits_iff, hsplits, List.mem_append, List.mem_cons] at hother
  rcases hother with hother | rfl | hother
  · -- nothing before it was looked for
    have hnot := hbefore other hother
    simp [hpother] at hnot
  · exact Nat.le_refl _
  · exact (hpair.2.1.1 other hother).1

/-- The split that is tried first has the longest token. -/
theorem longest_of_head? {key : FilterKey} (h : (splits text).head? = some key) :
    IsSplit text key ∧ ∀ other, IsSplit text other →
      other.predicate.token.length ≤ key.predicate.token.length := by
  have hfind : (splits text).find? (fun _ => true) = some key := by
    rw [← h]
    cases splits text <;> rfl
  obtain ⟨hsplit, -, hlongest⟩ := longest_of_find? hfind
  exact ⟨hsplit, fun other hother => hlongest other hother rfl⟩

/-- What is read is the declared split with the longest token. -/
theorem parse_eq_ok_iff {key : FilterKey} :
    parse fields text = .ok key ↔ IsSplit text key ∧ key.field ∈ fields ∧
      ∀ other, IsSplit text other → other.field ∈ fields →
        other.predicate.token.length ≤ key.predicate.token.length := by
  rw [parse]
  cases hfind : (splits text).find? fun key => fields.contains key.field with
  | none =>
    rw [find?_splits_eq_none_iff] at hfind
    refine iff_of_false ?_ fun h => hfind key h.1 h.2.1
    dsimp only
    split <;> simp
  | some found =>
    obtain ⟨hsplit, hfield, hlongest⟩ := longest_of_find? hfind
    simp only [List.contains_iff_mem] at hfield hlongest
    rw [Except.ok.injEq]
    constructor
    · rintro rfl
      exact ⟨hsplit, hfield, hlongest⟩
    · rintro ⟨hsplit', hfield', hlongest'⟩
      exact hsplit.eq_of_length_eq hsplit'
        (Nat.le_antisymm (hlongest' found hsplit hfield) (hlongest key hsplit' hfield'))

theorem head?_splits_eq_none_iff : (splits text).head? = none ↔ ∀ key, ¬ IsSplit text key := by
  rw [List.head?_eq_none_iff, List.eq_nil_iff_forall_not_mem]
  simp only [mem_splits_iff]

/-- The two failures: the longest token tells which field was meant, if there is a split at all. -/
theorem parse_eq_error_iff {e : FilterError} :
    parse fields text = .error e ↔ (∀ key, IsSplit text key → key.field ∉ fields) ∧
      ((∃ key, (splits text).head? = some key ∧ e = .unknownField key.field text) ∨
        (splits text).head? = none ∧ e = .invalidKey text) := by
  rw [parse]
  cases hfind : (splits text).find? fun key => fields.contains key.field with
  | some found =>
    refine iff_of_false (by simp) fun h => ?_
    rw [find?_splits_eq_none_iff.2 h.1] at hfind
    cases hfind
  | none =>
    rw [find?_splits_eq_none_iff] at hfind
    rw [and_iff_right hfind]
    cases hhead : (splits text).head? with
    | none => simp [eq_comm]
    | some key => simp [eq_comm]

theorem parse_eq_unknownField_iff {field k : String} :
    parse fields text = .error (.unknownField field k) ↔
      k = text ∧ (∀ key, IsSplit text key → key.field ∉ fields) ∧
        ∃ p, IsSplit text ⟨field, p⟩ ∧ ∀ other, IsSplit text other →
          other.predicate.token.length ≤ p.token.length := by
  rw [parse_eq_error_iff]
  constructor
  · rintro ⟨hnone, ⟨key, hhead, heq⟩ | ⟨-, heq⟩⟩
    · cases heq
      obtain ⟨hsplit, hlongest⟩ := longest_of_head? hhead
      exact ⟨rfl, hnone, key.predicate, hsplit, hlongest⟩
    · cases heq
  · rintro ⟨rfl, hnone, p, hsplit, hlongest⟩
    refine ⟨hnone, .inl ?_⟩
    cases hhead : (splits k).head? with
    | none => exact absurd hsplit (head?_splits_eq_none_iff.1 hhead _)
    | some key =>
      obtain ⟨hsplit', hlongest'⟩ := longest_of_head? hhead
      have heq := hsplit'.eq_of_length_eq hsplit
        (Nat.le_antisymm (hlongest key hsplit') (hlongest' _ hsplit))
      exact ⟨key, rfl, by rw [heq]⟩

theorem parse_eq_invalidKey_iff {k : String} :
    parse fields text = .error (.invalidKey k) ↔ k = text ∧ ∀ key, ¬ IsSplit text key := by
  rw [parse_eq_error_iff, ← head?_splits_eq_none_iff]
  constructor
  · rintro ⟨-, ⟨key, -, heq⟩ | ⟨hhead, heq⟩⟩
    · cases heq
    · cases heq
      exact ⟨rfl, hhead⟩
  · rintro ⟨rfl, hhead⟩
    exact ⟨fun key hsplit => absurd hsplit (head?_splits_eq_none_iff.1 hhead key), .inr ⟨hhead, rfl⟩⟩

/-! ### Reading a key back -/

theorem isSplit_text {key : FilterKey} (h : key.field ≠ "") : IsSplit key.text key := ⟨h, rfl⟩

/-- A negated key has the longest token of all the splits of its text. -/
theorem longest_of_negated {field : String} {relation : Relation} {other : FilterKey}
    (hsplit : IsSplit text ⟨field, ⟨relation, true⟩⟩) (hother : IsSplit text other) :
    other.predicate.token.length ≤ (Predicate.mk relation true).token.length := by
  by_contra hlt
  have hle := Nat.le_of_not_le hlt
  rcases eq_or_negation (hother.2.symm.trans hsplit.2) hle with rfl | ⟨relation', -, heq⟩
  · exact hlt (Nat.le_refl _)
  · cases heq

/-- A declared key is read back unless it is not negated and its field name ends with `_not` behind
a declared field. -/
theorem parse_text_eq_ok_iff {key : FilterKey} (hne : key.field ≠ "") (hfield : key.field ∈ fields) :
    parse fields key.text = .ok key ↔
      ¬ (key.predicate.negated = false ∧ ∃ g, g ≠ "" ∧ g ∈ fields ∧ key.field = g ++ "_not") := by
  rw [parse_eq_ok_iff]
  constructor
  · rintro ⟨-, -, hlongest⟩ ⟨hnegated, g, hg, hdeclared, heq⟩
    obtain ⟨f, relation, negated⟩ := key
    simp only at hnegated heq
    subst hnegated heq
    have hle := hlongest ⟨g, ⟨relation, true⟩⟩ ⟨hg, (text_negation g relation).symm⟩ hdeclared
    exact Nat.not_le_of_lt (Predicate.length_token_lt relation) hle
  · intro hclear
    refine ⟨isSplit_text hne, hfield, fun other hother hdeclared => ?_⟩
    by_contra hlt
    rcases eq_or_negation hother.2.symm (Nat.le_of_not_le hlt) with rfl | ⟨relation, -, rfl⟩
    · exact hlt (Nat.le_refl _)
    · exact hclear ⟨rfl, other.field, hother.1, hdeclared, rfl⟩

theorem parse_text_negation {field : String} {relation : Relation} (hne : field ≠ "")
    (hfield : field ∈ fields) :
    parse fields (FilterKey.mk (field ++ "_not") ⟨relation, false⟩).text =
      .ok ⟨field, ⟨relation, true⟩⟩ := by
  have hsplit : IsSplit (FilterKey.mk (field ++ "_not") ⟨relation, false⟩).text
      ⟨field, ⟨relation, true⟩⟩ := ⟨hne, (text_negation field relation).symm⟩
  rw [parse_eq_ok_iff]
  exact ⟨hsplit, hfield, fun other hother _ => longest_of_negated hsplit hother⟩

/-- **A text is read as the declared split with the longest token.** With splits of which none is
declared, the longest token tells which field is unknown, and without any split the key is invalid.
There are two splits at most, and a declared key is read back, unless it is not negated and names a
field that ends with `_not` behind another declared one: then the negation is asked of that one. -/
theorem parse_longest_declared (fields : List String) (text : String) :
    (∀ key, parse fields text = .ok key ↔ IsSplit text key ∧ key.field ∈ fields ∧
      ∀ other, IsSplit text other → other.field ∈ fields →
        other.predicate.token.length ≤ key.predicate.token.length) ∧
    ((∃ field k, parse fields text = .error (.unknownField field k)) ↔
      (∃ key, IsSplit text key) ∧ ∀ key, IsSplit text key → key.field ∉ fields) ∧
    (∀ field k, parse fields text = .error (.unknownField field k) →
      k = text ∧ ∃ p, IsSplit text ⟨field, p⟩ ∧ ∀ other, IsSplit text other →
        other.predicate.token.length ≤ p.token.length) ∧
    (∀ k, parse fields text = .error (.invalidKey k) ↔ k = text ∧ ∀ key, ¬ IsSplit text key) ∧
    ((splits text).length ≤ 2 ∧ ∀ key, key ∈ splits text ↔ IsSplit text key) ∧
    ∀ field p, field ≠ "" → field ∈ fields →
      (parse fields (field ++ "_" ++ p.token) = .ok ⟨field, p⟩ ↔
        ¬ (p.negated = false ∧ ∃ g, g ≠ "" ∧ g ∈ fields ∧ field = g ++ "_not")) ∧
      ∀ g, g ≠ "" → g ∈ fields → p.negated = false → field = g ++ "_not" →
        parse fields (field ++ "_" ++ p.token) = .ok ⟨g, ⟨p.relation, true⟩⟩ := by
  refine ⟨fun key => parse_eq_ok_iff, ⟨?_, ?_⟩, fun field k h => ?_,
    fun k => parse_eq_invalidKey_iff, ⟨?_, fun key => mem_splits_iff⟩,
    fun field p hne hfield => ⟨?_, ?_⟩⟩
  · rintro ⟨field, k, h⟩
    obtain ⟨-, hnone, p, hsplit, -⟩ := parse_eq_unknownField_iff.1 h
    exact ⟨⟨_, hsplit⟩, hnone⟩
  · rintro ⟨⟨key, hsplit⟩, hnone⟩
    cases hhead : (splits text).head? with
    | none => exact absurd hsplit (head?_splits_eq_none_iff.1 hhead key)
    | some first =>
      obtain ⟨hfirst, hlongest⟩ := longest_of_head? hhead
      exact ⟨first.field, text, parse_eq_unknownField_iff.2 ⟨rfl, hnone, _, hfirst, hlongest⟩⟩
  · obtain ⟨hk, -, hlongest⟩ := parse_eq_unknownField_iff.1 h
    exact ⟨hk, hlongest⟩
  · rcases splits_cases text with h | ⟨key, h⟩ | ⟨field, relation, h⟩ <;> rw [h] <;> simp
  · exact @parse_text_eq_ok_iff fields ⟨field, p⟩ hne hfield
  · rintro g hg hdeclared hnegated rfl
    obtain ⟨relation, negated⟩ := p
    cases hnegated
    exact parse_text_negation hg hdeclared

/-- With both fields declared, a comparison of `name_not` is read as the negated one of `name`; of an
unknown field, the name without `not` is reported. -/
theorem parse_longest_declared_not_eq :
    let fields := ["name", "name_not"]
    parse fields ("name_not" ++ "_" ++ Predicate.token ⟨.equals, false⟩) =
        .ok ⟨"name", ⟨.equals, true⟩⟩ ∧
      parse fields "color_not_eq" = .error (.unknownField "color" "color_not_eq") ∧
      ∃ p, IsSplit "color_not_eq" ⟨"color", p⟩ := by
  intro fields
  have hunknown : parse fields "color_not_eq" = .error (.unknownField "color" "color_not_eq") := rfl
  obtain ⟨-, -, hlongest, -⟩ := parse_longest_declared fields "color_not_eq"
  obtain ⟨-, p, hsplit, -⟩ := hlongest _ _ hunknown
  obtain ⟨-, -, -, -, -, hback⟩ := parse_longest_declared fields "name_not_eq"
  have hread := hback "name_not" ⟨.equals, false⟩ (by decide) (by decide)
  exact ⟨hread.2 "name" (by decide) (by decide) rfl rfl, hunknown, p, hsplit⟩

end FilterKey

end KeyedFilter
