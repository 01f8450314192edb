import Mathlib.Data.List.Forall2
import Mathlib.Data.List.Perm.Basic

/-!
# Lists that are read entry by entry

A list of inputs is read in order, and the first input that is refused ends the reading with its own
error. So a reading has a list of results exactly when each input has its result.

* `mapM_eq_ok_iff`, `mapM_eq_error_iff`: both ends of a reading.
* `foldlM_eq_error_iff`: the refusal that ends a loop.
* `exists_first_of_filter`: the first input, where some are passed over.
* `getLast?_filterMap_cons`, `concat_eq_append_cons_iff`: the last one.
-/

namespace KeyedFilter

variable {α β δ : Type}

/-- A list is read when each of its entries is. -/
theorem mapM_eq_ok_iff {f : α → Except δ β} {l : List α} {r : List β} :
    l.mapM f = .ok r ↔ List.Forall₂ (fun a b => f a = .ok b) l r := by
  induction l generalizing r with
  | nil => cases r <;> simp [pure, Except.pure]
  | cons a l ih =>
    rw [List.mapM_cons]
    cases ha : f a with
    | error e => cases r <;> simp [bind, Except.bind, ha]
    | ok b =>
      cases hl : l.mapM f with
      | error e => cases r <;> simp [bind, Except.bind, ← ih, hl]
      | ok bs => cases r <;> simp [bind, Except.bind, pure, Except.pure, ← ih, hl, ha]

/-- Every result is that of an entry. -/
theorem exists_of_mem_mapM {f : α → Except δ β} {l : List α} {r : List β} {b : β}
    (h : l.mapM f = .ok r) (hb : b ∈ r) : ∃ a ∈ l, f a = .ok b := by
  rw [mapM_eq_ok_iff] at h
  induction h with
  | nil => cases hb
  | cons ha _ ih =>
    obtain rfl | hb := List.mem_cons.1 hb
    · exact ⟨_, List.mem_cons_self, ha⟩
    · obtain ⟨a, hmem, ha⟩ := ih hb
      exact ⟨a, List.mem_cons_of_mem _ hmem, ha⟩

/-- A list is refused for the first of its entries that is. -/
theorem mapM_eq_error_iff {f : α → Except δ β} {l : List α} {e : δ} :
    l.mapM f = .error e ↔ ∃ before a after, l = before ++ a :: after ∧
      (∀ b ∈ before, ∃ r, f b = .ok r) ∧ f a = .error e := by
  induction l with
  | nil => simp [pure, Except.pure]
  | cons a l ih =>
    simp only [List.mapM_cons, List.cons_eq_append_iff]
    cases ha : f a with
    | error e' =>
      constructor
      · intro h
        cases h
        exact ⟨[], a, l, .inl ⟨rfl, rfl⟩, nofun, ha⟩
      · rintro ⟨before, b, after, ⟨rfl, hsplit⟩ | ⟨front, rfl, -⟩, hbefore, hb⟩
        · obtain ⟨rfl, rfl⟩ := List.cons.inj hsplit
          cases ha.symm.trans hb
          rfl
        · obtain ⟨r, hr⟩ := hbefore a List.mem_cons_self
          cases ha.symm.trans hr
    | ok r =>
      have hrest : (do let r ← Except.ok r; let rest ← l.mapM f; pure (r :: rest)) =
          (.error e : Except δ (List β)) ↔ l.mapM f = .error e := by
        cases l.mapM f <;> simp [bind, Except.bind, pure, Except.pure]
      rw [hrest, ih]
      constructor
      · rintro ⟨before, b, after, rfl, hbefore, hb⟩
        exact ⟨a :: before, b, after, .inr ⟨before, rfl, rfl⟩,
          List.forall_mem_cons.2 ⟨⟨r, ha⟩, hbefore⟩, hb⟩
      · rintro ⟨before, b, after, ⟨rfl, hsplit⟩ | ⟨front, rfl, rfl⟩, hbefore, hb⟩
        · obtain ⟨rfl, rfl⟩ := List.cons.inj hsplit
          cases ha.symm.trans hb
        · exact ⟨front, b, after, rfl, (List.forall_mem_cons.1 hbefore).2, hb⟩

theorem exists_mapM_eq_error_iff {f : α → Except δ β} {l : List α} :
    (∃ e, l.mapM f = .error e) ↔ ∃ a ∈ l, ∃ e, f a = .error e := by
  induction l with
  | nil => simp [pure, Except.pure]
  | cons a l ih =>
    rw [List.mapM_cons, List.exists_mem_cons_iff, ← ih]
    cases f a with
    | error e => simp [bind, Except.bind]
    | ok r => cases l.mapM f <;> simp [bind, Except.bind, pure, Except.pure]

/-- In another order, the same entries are read. -/
theorem exists_mapM_perm {f : α → Except δ β} {l l' : List α} {r : List β} (h : l.Perm l')
    (hr : l.mapM f = .ok r) : ∃ r', l'.mapM f = .ok r' ∧ r.Perm r' := by
  rw [mapM_eq_ok_iff] at hr
  obtain ⟨r', hr', hperm⟩ := List.perm_comp_forall₂ h.symm hr
  exact ⟨r', mapM_eq_ok_iff.2 hr', hperm.symm⟩

theorem mapM_congr {f g : α → Except δ β} {l : List α} (h : ∀ a ∈ l, f a = g a) :
    l.mapM f = l.mapM g := by
  induction l with
  | nil => rfl
  | cons a l ih =>
    rw [List.forall_mem_cons] at h
    rw [List.mapM_cons, List.mapM_cons, h.1, ih h.2]

/-- A list is read alike when each of its entries is, but for how the results are put. -/
theorem mapM_map_eq {α' β' : Type} {f : α → Except δ β} {g : α' → Except δ β'} {h : α → α'}
    {k : β → β'} {l : List α} (hentry : ∀ a ∈ l, g (h a) = (f a).map k) :
    (l.map h).mapM g = (l.mapM f).map (List.map k) := by
  induction l with
  | nil => rfl
  | cons a l ih =>
    rw [List.forall_mem_cons] at hentry
    rw [List.map_cons, List.mapM_cons, List.mapM_cons, hentry.1, ih hentry.2]
    cases f a with
    | error e => rfl
    | ok b => cases l.mapM f <;> rfl

/-- A loop ends with the refusal of its first step that is refused. -/
theorem foldlM_eq_error_iff {f : β → α → Except δ β} {l : List α} {b : β} {e : δ} :
    l.foldlM f b = .error e ↔ ∃ before a after b', l = before ++ a :: after ∧
      before.foldlM f b = .ok b' ∧ f b' a = .error e := by
  constructor
  · intro h
    induction l generalizing b with
    | nil => cases h
    | cons a rest ih =>
      rw [List.foldlM_cons] at h
      cases hstep : f b a with
      | error e' =>
        rw [hstep] at h
        cases h
        exact ⟨[], a, rest, b, rfl, rfl, hstep⟩
      | ok next =>
        rw [hstep] at h
        obtain ⟨before, a', after, b', rfl, hbefore, hrefused⟩ := ih h
        refine ⟨a :: before, a', after, b', rfl, ?_, hrefused⟩
        rw [List.foldlM_cons, hstep]
        exact hbefore
  · rintro ⟨before, a, after, b', rfl, hbefore, hrefused⟩
    rw [List.foldlM_append, hbefore]
    show (do let b ← f b' a; after.foldlM f b) = .error e
    rw [hrefused]
    rfl

/-- So it was refused in one of its steps. -/
theorem exists_of_foldlM_eq_error {f : β → α → Except δ β} {l : List α} {b : β} {e : δ}
    (h : l.foldlM f b = .error e) : ∃ a ∈ l, ∃ b', f b' a = .error e := by
  obtain ⟨before, a, after, b', rfl, -, hrefused⟩ := foldlM_eq_error_iff.1 h
  exact ⟨a, by simp, b', hrefused⟩

/-- What comes first among the entries that pass a test. -/
theorem exists_first_of_filter {p : α → Bool} {l : List α} {P Q : α → Prop} :
    (∃ before a after, l.filter p = before ++ a :: after ∧ (∀ b ∈ before, P b) ∧ Q a) ↔
      ∃ before a after, l = before ++ a :: after ∧ (∀ b ∈ before, p b = true → P b) ∧
        p a = true ∧ Q a := by
  constructor
  · rintro ⟨before, a, after, hsplit, hbefore, ha⟩
    obtain ⟨front, rest, rfl, rfl, hrest⟩ := List.filter_eq_append_iff.1 hsplit
    obtain ⟨middle, tail, rfl, hmiddle, hpa, rfl⟩ := List.filter_eq_cons_iff.1 hrest
    refine ⟨front ++ middle, a, tail, by simp, ?_, hpa, ha⟩
    refine List.forall_mem_append.2 ⟨fun b hb hpb => hbefore b ?_, fun b hb hpb => ?_⟩
    · exact List.mem_filter.2 ⟨hb, hpb⟩
    · exact absurd hpb (hmiddle b hb)
  · rintro ⟨before, a, after, rfl, hbefore, hpa, ha⟩
    refine ⟨before.filter p, a, after.filter p, ?_, fun b hb => ?_, ha⟩
    · rw [List.filter_append, List.filter_cons_of_pos hpa]
    · obtain ⟨hmem, hpb⟩ := List.mem_filter.1 hb
      exact hbefore b hmem hpb

/-- What comes later in a list goes before what comes earlier. -/
theorem getLast?_filterMap_cons (f : α → Option β) (a : α) (l : List α) :
    ((a :: l).filterMap f).getLast? = (l.filterMap f).getLast?.or (f a) := by
  cases ha : f a with
  | none => rw [List.filterMap_cons_none ha, Option.or_none]
  | some b =>
    rw [List.filterMap_cons_some ha, List.getLast?_cons]
    cases (l.filterMap f).getLast? <;> rfl

/-- What is in a list with one more entry at the end: that entry, or one of those before. -/
theorem concat_eq_append_cons_iff {l before after : List α} {a b : α} :
    l ++ [a] = before ++ b :: after ↔
      (l = before ∧ a = b ∧ after = []) ∨ ∃ front, after = front ++ [a] ∧ l = before ++ b :: front := by
  constructor
  · intro h
    rcases List.eq_nil_or_concat after with rfl | ⟨front, c, rfl⟩
    · obtain ⟨rfl, hlast⟩ := List.append_inj' h rfl
      exact .inl ⟨rfl, List.head_eq_of_cons_eq hlast, rfl⟩
    · rw [List.concat_eq_append, ← List.cons_append, ← List.append_assoc] at h
      obtain ⟨rfl, hlast⟩ := List.append_inj' h rfl
      exact .inr ⟨front, by rw [List.concat_eq_append, hlast], rfl⟩
  · rintro (⟨rfl, rfl, rfl⟩ | ⟨front, rfl, rfl⟩)
    · rfl
    · rw [List.append_assoc, List.cons_append]

end KeyedFilter
