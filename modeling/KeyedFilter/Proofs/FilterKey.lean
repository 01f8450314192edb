import KeyedFilter.FilterKey

/-!
# What filter keys say

A text splits into a field and a predicate exactly when it is the text of that key. So the text can
be recovered from every key that is read, and two texts never give the same key.

* `mem_splits`: the splits of a text are the keys with that text and a field name.
* `text_of_parse`: a key that is read has the text that was read.
-/

namespace KeyedFilter

theorem Text.dropEnding?_eq_some_iff {text ending front : List Char} :
    Text.dropEnding? text ending = some front ↔ text = front ++ ending := by
  simp only [Text.dropEnding?, List.isSuffixOf_iff_suffix]
  constructor
  · intro h
    split at h
    · rename_i hsuffix
      obtain ⟨rest, rfl⟩ := hsuffix
      simpa using h
    · cases h
  · rintro rfl
    simp

/-- The table registers each predicate under its token and under no other. -/
theorem Predicate.mem_table_iff {token : String} {p : Predicate} :
    (token, p) ∈ Predicate.table ↔ token = p.token := by
  constructor
  · intro h
    exact (Predicate.token_of_mem_table _ h).symm
  · rintro rfl
    obtain ⟨relation, negated⟩ := p
    cases relation <;> cases negated <;> decide

namespace FilterKey

theorem fieldBefore?_eq_some_iff {text token field : String} :
    fieldBefore? text token = some field ↔ field ≠ "" ∧ text = field ++ "_" ++ token := by
  -- the ending is looked for among the characters
  have hlist : text = field ++ "_" ++ token ↔
      text.toList = field.toList ++ '_' :: token.toList := by
    rw [← String.toList_inj]
    simp
  rw [fieldBefore?, hlist]
  constructor
  · intro h
    split at h
    · rename_i c rest hdrop
      cases h
      refine ⟨?_, by simpa using Text.dropEnding?_eq_some_iff.1 hdrop⟩
      rw [Ne, ← String.toList_inj]
      simp
    · cases h
  · rintro ⟨hne, htext⟩
    rw [Text.dropEnding?_eq_some_iff.2 htext]
    cases hchars : field.toList with
    | nil => exact absurd (String.toList_inj.1 hchars) hne
    | cons c rest => simp [← hchars]

/-- The splits of a text are the keys that are written so. -/
theorem mem_splits {text : String} {key : FilterKey} :
    key ∈ splits text ↔ key.field ≠ "" ∧ key.text = text := by
  simp only [splits, List.mem_filterMap, Option.map_eq_some_iff, Prod.exists,
    fieldBefore?_eq_some_iff]
  constructor
  · rintro ⟨token, p, hmem, field, ⟨hne, rfl⟩, rfl⟩
    rw [Predicate.mem_table_iff] at hmem
    exact ⟨hne, by rw [FilterKey.text, hmem]⟩
  · rintro ⟨hne, rfl⟩
    exact ⟨key.predicate.token, key.predicate, Predicate.mem_table_iff.2 rfl, key.field,
      ⟨hne, rfl⟩, rfl⟩

theorem mem_splits_of_parse {fields : List String} {text : String} {key : FilterKey}
    (h : parse fields text = .ok key) : key ∈ splits text ∧ key.field ∈ fields := by
  rw [parse] at h
  split at h
  · rename_i found hfind
    cases h
    exact ⟨List.mem_of_find?_eq_some hfind, by simpa using List.find?_some hfind⟩
  · split at h <;> cases h

/-- **A key that is read has the text that was read.** -/
theorem text_of_parse {fields : List String} {text : String} {key : FilterKey}
    (h : parse fields text = .ok key) : key.text = text :=
  (mem_splits.1 (mem_splits_of_parse h).1).2

end FilterKey

end KeyedFilter
