import Mathlib.Order.Compare
import KeyedFilter.Proofs.Number.Comparison
import KeyedFilter.Scalar.Conversion
import KeyedFilter.SortClause

/-!
# The sort order is a total preorder

Comparing scalars, and comparing entities by any list of clauses, is oriented and transitive, so
that a list has a sorted arrangement and only ties are left open. Numbers of the three
representations and NaN are ordered by what they stand for; the proof for entities goes through the
clauses one by one.

* `Scalar.place`: where the scalars of a type stand among all scalars, and where NaN does.
* `compareBy_total_preorder`: the laws for entities, and the order of unlike values.
-/

namespace KeyedFilter

open Std

/-! ### Scalars -/

/-- Sorting puts NaN last and orders all other numbers by what they stand for. -/
theorem Number.compareTotal_eq_lex :
    Number.compareTotal = compareLex (compareOn Number.isNaN) (compareOn Number.exactValue?) := by
  funext a b
  rw [compareTotal, compare?_eq_exact, compareLex, compareOn, compareOn, a.isNaN_eq_isNone,
    b.isNaN_eq_isNone]
  cases a.exactValue? <;> cases b.exactValue? <;> rfl

instance : TransCmp Number.compareTotal := by
  rw [Number.compareTotal_eq_lex]
  infer_instance

/-- The numbers that sorting does not tell apart are those that stand for the same. -/
theorem Number.compareTotal_eq_iff {m n : Number} :
    m.compareTotal n = .eq ↔ m.exactValue? = n.exactValue? := by
  rw [compareTotal_eq_lex, compareLex, Ordering.then_eq_eq, compareOn, compareOn,
    Std.compare_eq_iff_eq, Std.compare_eq_iff_eq, m.isNaN_eq_isNone, n.isNaN_eq_isNone]
  exact ⟨And.right, fun h => ⟨by rw [h], h⟩⟩

instance : TransCmp Timestamp.compare :=
  inferInstanceAs (TransCmp (compareOn fun t : Timestamp => t.millis.toInt))

theorem Timestamp.compare_eq_iff {a b : Timestamp} : a.compare b = .eq ↔ a = b := by
  obtain ⟨m⟩ := a
  obtain ⟨n⟩ := b
  rw [Timestamp.compare, Std.compare_eq_iff_eq, Int64.toInt_inj, Timestamp.mk.injEq]

theorem Scalar.compare_of_type_ne {a b : Scalar} (h : a.type ≠ b.type) :
    Scalar.compare a b = compare a.type.rank b.type.rank := by
  cases a <;> cases b <;> first | rfl | exact absurd rfl h

theorem ScalarType.eq_of_rank_eq {a b : ScalarType} (h : a.rank = b.rank) : a = b := by
  cases a <;> cases b <;> first | rfl | exact absurd h (by decide)

/-- The types of scalars stand in the order of their ranks. -/
theorem Scalar.rank_le_of_compare {a b : Scalar} (h : (Scalar.compare a b).isLE) :
    a.type.rank ≤ b.type.rank := by
  by_cases htype : a.type = b.type
  · rw [htype]
  · rw [Scalar.compare_of_type_ne htype, Nat.isLE_compare] at h
    exact h

instance : OrientedCmp Scalar.compare where
  eq_swap {a b} := by
    cases a <;> cases b <;> simp only [Scalar.compare] <;> exact OrientedCmp.eq_swap

/-- Scalars of one type are compared as what they hold, others by the ranks of their types. -/
instance : TransCmp Scalar.compare where
  isLE_trans {a b c} hab hbc := by
    have hrank₁ := Scalar.rank_le_of_compare hab
    have hrank₂ := Scalar.rank_le_of_compare hbc
    -- equal types at the ends leave no other type in the middle
    by_cases hac : a.type = c.type
    · have hb : b.type = a.type := ScalarType.eq_of_rank_eq (by rw [hac] at hrank₁ ⊢; omega)
      cases a <;> cases b <;> first | contradiction | skip
      all_goals
        cases c <;> first | contradiction | skip
        simp only [Scalar.compare] at hab hbc ⊢
        exact TransCmp.isLE_trans hab hbc
    · rw [Scalar.compare_of_type_ne hac, Nat.isLE_compare]
      omega

/-- The place of a scalar among those of all types. NaN has one of its own, between the other numbers
and the texts. -/
def Scalar.place : Scalar → ℕ
  | .bool _ => 0
  | .number n => if n.isNaN then 2 else 1
  | .string _ => 3
  | .timestamp _ => 4
  | .null => 5

theorem Number.compareTotal_of_isNaN {a b : Number} (ha : a.isNaN = false) (hb : b.isNaN = true) :
    a.compareTotal b = .lt := by
  rw [compareTotal_eq_lex, compareLex, compareOn, ha, hb]
  rfl

/-- Places refine the ranks of types. -/
theorem Scalar.place_near_rank (s : Scalar) : s.type.rank ≤ s.place ∧ s.place ≤ s.type.rank + 1 := by
  cases s with
  | number n =>
    simp only [type, ScalarType.rank, place]
    split_ifs <;> omega
  | _ => simp [type, ScalarType.rank, place]

theorem Scalar.compare_of_place_lt {a b : Scalar} (h : a.place < b.place) :
    Scalar.compare a b = .lt := by
  by_cases htype : a.type = b.type
  · -- of the types only that of numbers has more than one place
    cases a <;> cases b <;> first | contradiction | exact absurd h (Nat.lt_irrefl _) | skip
    rename_i m n
    simp only [place] at h
    split_ifs at h with hm hn hn
    · omega
    · omega
    · exact Number.compareTotal_of_isNaN (by simpa using hm) hn
    · omega
  · have ha := a.place_near_rank
    have hb := b.place_near_rank
    have hrank : a.type.rank ≠ b.type.rank := fun heq => htype (ScalarType.eq_of_rank_eq heq)
    rw [compare_of_type_ne htype, Nat.compare_eq_lt]
    omega

/-! ### Entities -/

variable {α β : Type}

/-- A transitive order of keys is one of what has the keys. -/
theorem transCmp_on (cmp : β → β → Ordering) [TransCmp cmp] (f : α → β) :
    TransCmp fun a b => cmp (f a) (f b) where
  eq_swap {a b} := @OrientedCmp.eq_swap _ cmp _ (f a) (f b)
  isLE_trans {a b c} := @TransCmp.isLE_trans _ cmp _ (f a) (f b) (f c)

instance (clause : SortClause) : TransCmp clause.compare := by
  obtain ⟨name, direction⟩ := clause
  cases direction with
  | ascending => exact inferInstanceAs (TransCmp Scalar.compare)
  | descending =>
    have heq : SortClause.compare ⟨name, .descending⟩ = fun a b => Scalar.compare b a := by
      funext a b
      exact OrientedCmp.eq_swap.symm
    rw [heq]
    infer_instance

variable {ε : Type} [HasFields ε]

theorem SortClause.compareBy_cons (clause : SortClause) (clauses : List SortClause) :
    compareBy (ε := ε) (clause :: clauses) =
      compareLex (fun a b =>
        clause.compare (HasFields.field a clause.field) (HasFields.field b clause.field))
        (compareBy clauses) := rfl

/-- **The order of entities by a list of clauses is a total preorder.** -/
instance (clauses : List SortClause) : TransCmp (SortClause.compareBy (ε := ε) clauses) := by
  induction clauses with
  | nil => exact { eq_swap := rfl, isLE_trans := fun _ _ => rfl }
  | cons clause clauses ih =>
    have := transCmp_on clause.compare fun a : ε => field a clause.field
    rw [SortClause.compareBy_cons]
    infer_instance

/-- **Entities are sorted by a total preorder**, whatever their fields hold: an entity ties with
itself, exchanging two reverses their order, and neither "not behind" nor "tied" can be broken along
a chain, so that tied entities stand alike to every other. By one ascending clause, unlike values
stand in the order of their places. -/
theorem compareBy_total_preorder (clauses : List SortClause) :
    let order : ε → ε → Ordering := SortClause.compareBy clauses
    (∀ a, order a a = .eq) ∧
    (∀ a b, order b a = (order a b).swap) ∧
    (∀ a b c, order a b ≠ .gt → order b c ≠ .gt → order a c ≠ .gt) ∧
    (∀ a b c, order a b = .eq → order b c = .eq → order a c = .eq) ∧
    (∀ a b c, order a b = .eq → order a c = order b c ∧ order c a = order c b) ∧
    ∀ (name : String) (a b : ε), (field a name).place < (field b name).place →
      SortClause.compareBy [⟨name, .ascending⟩] a b = .lt := by
  intro order
  have htrans : TransCmp order := inferInstanceAs (TransCmp (SortClause.compareBy clauses))
  refine ⟨fun a => ReflCmp.compare_self, fun a b => OrientedCmp.eq_swap, fun a b c hab hbc => ?_,
    fun a b c hab hbc => TransCmp.eq_trans hab hbc,
    fun a b c hab => ⟨TransCmp.congr_left hab, TransCmp.congr_right hab⟩, fun name a b h => ?_⟩
  · have hle := TransCmp.isLE_trans (Ordering.isLE_iff_ne_gt.2 hab) (Ordering.isLE_iff_ne_gt.2 hbc)
    exact Ordering.isLE_iff_ne_gt.1 hle
  · have hfirst : SortClause.compare ⟨name, .ascending⟩ (field a name) (field b name) = .lt :=
      Scalar.compare_of_place_lt h
    rw [SortClause.compareBy_cons, compareLex, hfirst, Ordering.lt_then]

/-- Three representations of one price tie. A whole number that no double holds stands between NaN
and the double next to it when prices descend. -/
theorem compareBy_total_preorder_prices :
    let row (price : Scalar) : Row := ⟨[("price", price), ("name", .string "lamp")]⟩
    let signed := row (.signed 5)
    let unsigned := row (.unsigned 5)
    let double := row (.double ⟨0x4014000000000000⟩)
    let nan := row (.double .nan)
    let odd := row (.signed 9007199254740993)
    let near := row (.double ⟨0x4340000000000000⟩)
    let text := row (.string "5")
    let order : Row → Row → Ordering :=
      SortClause.compareBy [⟨"price", .descending⟩, ⟨"name", .ascending⟩]
    (order nan odd ≠ .gt ∧ order odd near ≠ .gt ∧ order nan near ≠ .gt) ∧
    (order signed unsigned = .eq ∧ order unsigned double = .eq ∧ order signed double = .eq ∧
      order signed nan = order unsigned nan) ∧
    (field nan "price").place < (field text "price").place ∧
      SortClause.compareBy [⟨"price", .ascending⟩] nan text = .lt := by
  intro row signed unsigned double nan odd near text order
  obtain ⟨-, -, hle, heq, hcongr, -⟩ := compareBy_total_preorder (ε := Row)
    [⟨"price", .descending⟩, ⟨"name", .ascending⟩]
  have hplace : (field nan "price").place < (field text "price").place := by decide
  have hfirst : order nan odd ≠ .gt := by decide
  have hsecond : order odd near ≠ .gt := by decide
  have htie : order signed unsigned = .eq := by decide
  have htie' : order unsigned double = .eq := by decide
  exact ⟨⟨hfirst, hsecond, hle _ _ _ hfirst hsecond⟩,
    ⟨htie, htie', heq _ _ _ htie htie', (hcongr _ _ nan htie).1⟩, hplace,
    (compareBy_total_preorder []).2.2.2.2.2 _ _ _ hplace⟩

end KeyedFilter
