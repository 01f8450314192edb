import KeyedFilter.Proofs.Memory.Matching
import KeyedFilter.Proofs.Predicate.Threshold
import KeyedFilter.Scalar.Conversion

/-!
# What a threshold selects from a sorted list

A threshold is compared with field values in the order that sorts them. So in a list that is sorted
by a field with values of one type, those below a threshold stand at the front, and those above it
stand together, up to the values that nothing is known of: NaN and null, which are sorted last.

* `Predicate.order_eq_true_iff`: what is true of a value, by the sort order.
* `Predicate.true_of_isBelow`, `Predicate.true_of_isAbove`: two values in order.
* `Memory.threshold_selects_run`: a whole list.
-/

namespace KeyedFilter

open Std

/-! ### Two values -/

namespace Scalar

variable {type : ScalarType} {a b : Scalar}

/-- The value is of a type, or missing. -/
def OfType (type : ScalarType) (a : Scalar) : Prop :=
  a.type = type ∨ a = .null

theorem type_eq_null_iff : a.type = .null ↔ a = .null := by
  cases a <;> simp [Scalar.type]

theorem place_lt_null (h : a ≠ .null) : a.place < Scalar.null.place := by
  cases a with
  | null => exact absurd rfl h
  | number n => cases hn : n.isNaN <;> simp [place, hn]
  | _ => simp [place]

/-- A NaN is behind the numbers of which something is known. -/
theorem place_lt_of_isNaN (ha : a.isNaN = false) (hb : b.isNaN = true) (htype : a.type = b.type) :
    a.place < b.place := by
  cases b with
  | number n =>
    cases a with
    | number m =>
      have hm : m.isNaN = false := ha
      have hn : n.isNaN = true := hb
      simp [place, hm, hn]
    | _ => cases htype
  | _ => cases hb

/-- What nothing is known of is sorted last. -/
theorem known_of_sorted (ha : a.OfType type) (hb : b.OfType type)
    (hle : (Scalar.compare a b).isLE) (hknown : b.Known) : a.Known ∧ a.type = b.type := by
  have hbehind : ¬ b.place < a.place := fun hlt => by
    rw [OrientedCmp.gt_of_lt (compare_of_place_lt hlt)] at hle
    cases hle
  have hvalue : a ≠ .null := by
    rintro rfl
    exact hbehind (place_lt_null hknown.1)
  have htype : b.type = a.type :=
    (hb.resolve_right hknown.1).trans (ha.resolve_right hvalue).symm
  refine ⟨⟨hvalue, ?_⟩, htype.symm⟩
  by_contra hnan
  exact hbehind (place_lt_of_isNaN hknown.2 (by simpa using hnan) htype)

end Scalar

namespace Relation

/-- Is it for values below a threshold? -/
def isBelow (relation : Relation) : Prop :=
  relation = .less ∨ relation = .lessOrEqual

/-- Is it for values above a threshold? -/
def isAbove (relation : Relation) : Prop :=
  relation = .greater ∨ relation = .greaterOrEqual

theorem isOrder_of_isBelow {relation : Relation} (h : relation.isBelow) :
    relation.isOrder = true := by
  rcases h with rfl | rfl <;> rfl

theorem isOrder_of_isAbove {relation : Relation} (h : relation.isAbove) :
    relation.isOrder = true := by
  rcases h with rfl | rfl <;> rfl

end Relation

namespace Predicate

variable {relation : Relation} {name : String} {value operand a b : Scalar}

/-- A relation of order is true of the known values that the sort order puts on its side of the
threshold. -/
theorem order_eq_true_iff (h : relation.isOrder = true) :
    evaluate ⟨relation, false⟩ name value operand = .ok true ↔
      value.Known ∧ ∃ t, operand.threshold? value.type = some t ∧ t.isNaN = false ∧
        relation.admits (Scalar.compare value t) = true := by
  rw [evaluate_eq_true_iff]
  by_cases hvalue : value = .null
  · subst hvalue
    obtain ⟨hblank, hequals, -⟩ := Relation.isOrder_cases h
    rw [Relation.evaluate_null hblank fun hnull => hequals hnull.1]
    exact iff_of_false nofun fun hknown => hknown.1.1 rfl
  · rw [Relation.evaluate_of_isOrder h hvalue, Scalar.compareOperand?_eq_threshold]
    cases operand.threshold? value.type with
    | none => simp
    | some t =>
      cases hnan : value.isNaN <;> cases hnan' : t.isNaN <;>
        simp [Scalar.Known, hvalue, hnan, hnan']

/-- **What is below a threshold stays below it** when it is exchanged for what is sorted before. -/
theorem true_of_isBelow (h : relation.isBelow) (htype : a.type = b.type)
    (hle : (Scalar.compare a b).isLE)
    (hb : evaluate ⟨relation, false⟩ name b operand = .ok true) :
    evaluate ⟨relation, false⟩ name a operand = .ok true := by
  rw [order_eq_true_iff (Relation.isOrder_of_isBelow h)] at hb ⊢
  obtain ⟨hknown, t, ht, hnan, hadmits⟩ := hb
  refine ⟨(Scalar.known_of_sorted (.inl htype) (.inl rfl) hle hknown).1, t, by rw [htype, ht], hnan,
    ?_⟩
  rcases h with rfl | rfl
  · rw [Relation.admits, beq_iff_eq] at hadmits ⊢
    exact TransCmp.lt_of_isLE_of_lt hle hadmits
  · rw [Relation.admits, bne_iff_ne, Ne, ← Ordering.isLE_iff_ne_gt] at hadmits ⊢
    exact TransCmp.isLE_trans hle hadmits

/-- **What is above a threshold stays above it** when it is exchanged for what is sorted behind, as
long as something is known of that. -/
theorem true_of_isAbove (h : relation.isAbove) (htype : a.type = b.type)
    (hle : (Scalar.compare a b).isLE) (hknown : b.Known)
    (ha : evaluate ⟨relation, false⟩ name a operand = .ok true) :
    evaluate ⟨relation, false⟩ name b operand = .ok true := by
  rw [order_eq_true_iff (Relation.isOrder_of_isAbove h)] at ha ⊢
  obtain ⟨-, t, ht, hnan, hadmits⟩ := ha
  refine ⟨hknown, t, by rw [← htype, ht], hnan, ?_⟩
  rcases h with rfl | rfl
  · rw [Relation.admits, beq_iff_eq] at hadmits ⊢
    exact OrientedCmp.gt_of_lt (TransCmp.lt_of_lt_of_isLE (OrientedCmp.lt_of_gt hadmits) hle)
  · rw [Relation.admits, bne_iff_ne, Ne, ← Ordering.isGE_iff_ne_lt] at hadmits ⊢
    exact OrientedCmp.isGE_of_isLE (TransCmp.isLE_trans (OrientedCmp.isLE_of_isGE hadmits) hle)

end Predicate

/-! ### A sorted list -/

/-- What can only be lost on the way through a list holds of a front part of it. -/
theorem exists_front {α : Type} {p : α → Bool} {l : List α}
    (h : l.Pairwise fun a b => p b = true → p a = true) :
    ∃ front rest, l = front ++ rest ∧ (∀ a ∈ front, p a = true) ∧ ∀ a ∈ rest, p a = false := by
  induction l with
  | nil => exact ⟨[], [], rfl, nofun, nofun⟩
  | cons a l ih =>
    rw [List.pairwise_cons] at h
    cases hp : p a with
    | true =>
      obtain ⟨front, rest, rfl, hfront, hrest⟩ := ih h.2
      exact ⟨a :: front, rest, rfl, List.forall_mem_cons.2 ⟨hp, hfront⟩, hrest⟩
    | false =>
      refine ⟨[], a :: l, rfl, nofun, List.forall_mem_cons.2 ⟨hp, fun b hb => ?_⟩⟩
      by_contra hlater
      have hfirst := h.1 b hb (by simpa using hlater)
      rw [hp] at hfirst
      cases hfirst

namespace Memory

variable {ε : Type} [HasFields ε] {rows : List ε} {name : String} {type : ScalarType}
  {relation : Relation}

/-- Rows that come one after the other in the order of a field. -/
def SortedBy (name : String) (rows : List ε) : Prop :=
  rows.Pairwise fun a b => Scalar.compare (field a name) (field b name) ≠ .gt

/-- Of two such rows with values of one type, something is known of the first if it is of the
second, and then the two values are of that type. -/
theorem SortedBy.pairwise_known (hsorted : SortedBy name rows)
    (htype : ∀ row ∈ rows, (field row name).OfType type) :
    rows.Pairwise fun a b => (field b name).Known →
      (Scalar.compare (field a name) (field b name)).isLE ∧ (field a name).Known ∧
        (field a name).type = (field b name).type := by
  refine hsorted.imp_of_mem fun {a b} ha hb hle hknown => ?_
  have hle := Ordering.isLE_iff_ne_gt.2 hle
  exact ⟨hle, Scalar.known_of_sorted (htype a ha) (htype b hb) hle hknown⟩

/-- The rows below a threshold stand at the front. -/
theorem exists_below (operand : Scalar) (h : relation.isBelow) (hsorted : SortedBy name rows)
    (htype : ∀ row ∈ rows, (field row name).OfType type) :
    let c : Constraint := ⟨name, ⟨relation, false⟩, operand⟩
    ∃ selected rest, rows = selected ++ rest ∧
      (∀ row ∈ selected, c.holds (field row name) = .ok true) ∧
      ∀ row ∈ rest, c.holds (field row name) ≠ .ok true := by
  intro c
  have hfront : rows.Pairwise fun a b => decide (c.holds (field b name) = .ok true) = true →
      decide (c.holds (field a name) = .ok true) = true := by
    refine (hsorted.pairwise_known htype).imp fun {a b} hknown htrue => ?_
    rw [decide_eq_true_eq] at htrue ⊢
    obtain ⟨hle, -, heq⟩ :=
      hknown ((Predicate.order_eq_true_iff (Relation.isOrder_of_isBelow h)).1 htrue).1
    exact Predicate.true_of_isBelow h heq hle htrue
  obtain ⟨selected, rest, rfl, hselected, hrest⟩ := exists_front hfront
  exact ⟨selected, rest, rfl, by simpa using hselected, by simpa using hrest⟩

/-- The rows above a threshold stand together, behind the others of which something is known. -/
theorem exists_above (operand : Scalar) (h : relation.isAbove) (hsorted : SortedBy name rows)
    (htype : ∀ row ∈ rows, (field row name).OfType type) :
    let c : Constraint := ⟨name, ⟨relation, false⟩, operand⟩
    ∃ front selected rest, rows = front ++ selected ++ rest ∧
      (∀ row ∈ front, (field row name).Known ∧ c.holds (field row name) ≠ .ok true) ∧
      (∀ row ∈ selected, (field row name).Known ∧ c.holds (field row name) = .ok true) ∧
      ∀ row ∈ rest, ¬ (field row name).Known := by
  intro c
  have hpairwise := hsorted.pairwise_known htype
  have hfront : rows.Pairwise fun a b =>
      decide (field b name).Known = true → decide (field a name).Known = true := by
    refine hpairwise.imp fun {a b} hknown => ?_
    rw [decide_eq_true_eq, decide_eq_true_eq]
    exact fun hb => (hknown hb).2.1
  obtain ⟨known, rest, rfl, hknown, hrest⟩ := exists_front hfront
  simp only [decide_eq_true_eq, decide_eq_false_iff_not] at hknown hrest
  -- among the rows of which something is known, those that are not selected come first
  have hmiss : known.Pairwise fun a b => decide (c.holds (field b name) ≠ .ok true) = true →
      decide (c.holds (field a name) ≠ .ok true) = true := by
    refine (List.pairwise_append.1 hpairwise).1.imp_of_mem fun {a b} _ hb hab hmiss => ?_
    rw [decide_eq_true_eq] at hmiss ⊢
    obtain ⟨hle, -, heq⟩ := hab (hknown b hb)
    exact mt (Predicate.true_of_isAbove h heq hle (hknown b hb)) hmiss
  obtain ⟨front, selected, rfl, hmissed, hselected⟩ := exists_front hmiss
  simp only [decide_eq_true_eq, decide_eq_false_iff_not, not_not] at hmissed hselected
  exact ⟨front, selected, rest, rfl,
    fun row hrow => ⟨hknown row (List.mem_append_left _ hrow), hmissed row hrow⟩,
    fun row hrow => ⟨hknown row (List.mem_append_right _ hrow), hselected row hrow⟩, hrest⟩

theorem holds_eq_false {c : Constraint} {value : Scalar}
    (h : ∃ outcome, c.holds value = .ok outcome) (hne : c.holds value ≠ .ok true) :
    c.holds value = .ok false := by
  obtain ⟨outcome, houtcome⟩ := h
  cases outcome with
  | true => exact absurd houtcome hne
  | false => exact houtcome

/-- A query with one constraint finds what it is true of. -/
theorem matching_constrain {c : Constraint} {front selected rest : List ε}
    (hselected : ∀ row ∈ selected, c.holds (field row c.field) = .ok true)
    (hothers : ∀ row ∈ front ++ rest, c.holds (field row c.field) = .ok false) :
    matching (({} : Query ε).constrain c) (front ++ selected ++ rest) = .ok selected := by
  have hanswered : ∀ row ∈ front ++ selected ++ rest, ∀ e, ¬ StopsWith [c] row e := by
    intro row hrow e hstops
    rw [stopsWith_singleton_iff] at hstops
    have hmem : row ∈ selected ∨ row ∈ front ++ rest := by
      simp only [List.mem_append] at hrow ⊢
      tauto
    rcases hmem with hmem | hmem
    · rw [hselected row hmem] at hstops
      cases hstops
    · rw [hothers row hmem] at hstops
      cases hstops
  have hmisses : ∀ row ∈ front ++ rest, ¬ selects [c] [] row = true := by
    intro row hrow
    simp [selects, hothers row hrow]
  have hhits : ∀ row ∈ selected, selects [c] [] row = true := by
    intro row hrow
    simp [selects, hselected row hrow]
  rw [List.forall_mem_append] at hmisses
  have hfind : matching (({} : Query ε).constrain c) (front ++ selected ++ rest) =
      .ok ((front ++ selected ++ rest).filter (selects [c] [])) := matching_eq_ok hanswered
  rw [hfind, List.filter_append, List.filter_append, List.filter_eq_nil_iff.2 hmisses.1,
    List.filter_eq_nil_iff.2 hmisses.2, List.filter_eq_self.2 hhits, List.nil_append,
    List.append_nil]

/-- **A threshold agrees with the sort order.** Of two values of one type in order, the first is below
a threshold if the second is, and the second is above it if the first is, unless the second is a
NaN. So of rows that are sorted by a field, with values of one type and maybe some missing, a query
for those below finds a front part, and a query for those above finds a run that only ends where NaN
and the missing values begin. -/
theorem threshold_selects_run (name : String) (operand : Scalar) :
    let asks := fun relation => (⟨name, ⟨relation, false⟩, operand⟩ : Constraint)
    (∀ a b : Scalar, a.type = b.type → Scalar.compare a b ≠ .gt →
      (∀ relation : Relation, relation.isBelow → (asks relation).holds b = .ok true →
        (asks relation).holds a = .ok true) ∧
      ∀ relation : Relation, relation.isAbove → (asks relation).holds a = .ok true →
        b.isNaN = false → (asks relation).holds b = .ok true) ∧
    ∀ (rows : List ε) (type : ScalarType), SortedBy name rows →
      (∀ row ∈ rows, (field row name).OfType type) →
      ∀ relation : Relation,
        (∀ row ∈ rows, ∃ outcome, (asks relation).holds (field row name) = .ok outcome) →
        (relation.isBelow → ∃ selected rest, rows = selected ++ rest ∧
          (∀ row ∈ selected, (asks relation).holds (field row name) = .ok true) ∧
          (∀ row ∈ rest, (asks relation).holds (field row name) = .ok false) ∧
          matching (({} : Query ε).constrain (asks relation)) rows = .ok selected) ∧
        (relation.isAbove → ∃ front selected rest, rows = front ++ selected ++ rest ∧
          (∀ row ∈ selected, (asks relation).holds (field row name) = .ok true) ∧
          (∀ row ∈ front ++ rest, (asks relation).holds (field row name) = .ok false) ∧
          matching (({} : Query ε).constrain (asks relation)) rows = .ok selected ∧
          (∀ row ∈ front ++ selected, (field row name).Known) ∧
          ∀ row ∈ rest, field row name = .null ∨ (field row name).isNaN = true) := by
  intro asks
  refine ⟨fun a b htype hle => ?_, fun rows type hsorted htype relation hanswered => ⟨?_, ?_⟩⟩
  · have hle := Ordering.isLE_iff_ne_gt.2 hle
    refine ⟨fun relation h => Predicate.true_of_isBelow h htype hle, fun relation h ha hnan => ?_⟩
    have hknown := ((Predicate.order_eq_true_iff (Relation.isOrder_of_isAbove h)).1 ha).1
    refine Predicate.true_of_isAbove h htype hle ⟨?_, hnan⟩ ha
    rintro rfl
    exact hknown.1 (Scalar.type_eq_null_iff.1 htype)
  · intro h
    obtain ⟨selected, rest, rfl, hselected, hrest⟩ := exists_below operand h hsorted htype
    have hfalse : ∀ row ∈ rest, (asks relation).holds (field row name) = .ok false := fun row hrow =>
      holds_eq_false (hanswered row (List.mem_append_right _ hrow)) (hrest row hrow)
    have hfind : matching (({} : Query ε).constrain (asks relation)) ([] ++ selected ++ rest) =
        .ok selected := matching_constrain hselected hfalse
    exact ⟨selected, rest, rfl, hselected, hfalse, hfind⟩
  · intro h
    obtain ⟨front, selected, rest, rfl, hfront, hselected, hrest⟩ :=
      exists_above operand h hsorted htype
    have hmiss : ∀ row ∈ front ++ rest, (asks relation).holds (field row name) ≠ .ok true := by
      refine List.forall_mem_append.2 ⟨fun row hrow => (hfront row hrow).2, fun row hrow htrue => ?_⟩
      have horder := Relation.isOrder_of_isAbove h
      exact hrest row hrow ((Predicate.order_eq_true_iff horder).1 htrue).1
    have hfalse : ∀ row ∈ front ++ rest, (asks relation).holds (field row name) = .ok false :=
      fun row hrow => holds_eq_false (hanswered row (by
        simp only [List.mem_append] at hrow ⊢
        tauto)) (hmiss row hrow)
    have htrue := fun row hrow => (hselected row hrow).2
    refine ⟨front, selected, rest, rfl, htrue, hfalse, matching_constrain htrue hfalse, ?_, ?_⟩
    · exact List.forall_mem_append.2
        ⟨fun row hrow => (hfront row hrow).1, fun row hrow => (hselected row hrow).1⟩
    · intro row hrow
      have hunknown := hrest row hrow
      rw [Scalar.Known, not_and_or, not_not, Bool.not_eq_false] at hunknown
      exact hunknown

/-- Prices in three representations around a threshold that is given as a text, with a NaN and a
missing price at the end. -/
theorem threshold_selects_run_prices :
    let half : Scalar := .double ⟨0x4016000000000000⟩
    let row := fun price => (⟨[("price", price)]⟩ : Row)
    let rows : List Row := [row (.signed 5), row half, row (.unsigned 18446744073709551615),
      row (.double (.infinite false)), row (.double .nan), ⟨[]⟩]
    let asks := fun relation => (⟨"price", ⟨relation, false⟩, .string "5.5"⟩ : Constraint)
    (Scalar.type (.signed 5) = half.type ∧ Scalar.compare (.signed 5) half ≠ .gt ∧
      (asks .less).holds half = .ok false ∧ (asks .lessOrEqual).holds half = .ok true ∧
      (asks .lessOrEqual).holds (.signed 5) = .ok true) ∧
    SortedBy "price" rows ∧ (∀ row ∈ rows, (field row "price").OfType .number) ∧
    (∀ row ∈ rows, ∃ outcome, (asks .greaterOrEqual).holds (field row "price") = .ok outcome) ∧
    ∃ front rest, rows = front ++ [row half, row (.unsigned 18446744073709551615),
        row (.double (.infinite false))] ++ rest ∧
      ∀ row ∈ rest, field row "price" = .null ∨ (field row "price").isNaN = true := by
  intro half row rows asks
  have hpair := (threshold_selects_run (ε := Row) "price" (.string "5.5")).1
  have hlist := (threshold_selects_run (ε := Row) "price" (.string "5.5")).2
  have hle : Scalar.compare (.signed 5) half ≠ .gt := by decide +kernel
  have hhalf : (asks .lessOrEqual).holds half = .ok true := by decide +kernel
  have hsorted : SortedBy "price" rows := by
    unfold SortedBy
    decide +kernel
  have htype : ∀ row ∈ rows, (field row "price").OfType .number := by
    unfold Scalar.OfType
    decide +kernel
  have hanswered : ∀ row ∈ rows, ∃ outcome,
      (asks .greaterOrEqual).holds (field row "price") = .ok outcome := by
    simp only [rows, List.forall_mem_cons]
    exact ⟨⟨false, by decide +kernel⟩, ⟨true, by decide +kernel⟩, ⟨true, by decide +kernel⟩,
      ⟨true, by decide +kernel⟩, ⟨false, by decide +kernel⟩, ⟨false, by decide +kernel⟩, nofun⟩
  obtain ⟨front, selected, rest, hrows, -, -, hfind, -, hrest⟩ :=
    (hlist rows .number hsorted htype .greaterOrEqual hanswered).2 (.inr rfl)
  have hselected : matching (({} : Query Row).constrain (asks .greaterOrEqual)) rows =
      .ok [row half, row (.unsigned 18446744073709551615), row (.double (.infinite false))] := by
    decide +kernel
  obtain rfl := Except.ok.inj (hfind.symm.trans hselected)
  exact ⟨⟨rfl, hle, by decide +kernel, hhalf,
      (hpair (.signed 5) half rfl hle).1 .lessOrEqual (.inr rfl) hhalf⟩,
    hsorted, htype, hanswered, front, rest, hrows, hrest⟩

end Memory

end KeyedFilter
