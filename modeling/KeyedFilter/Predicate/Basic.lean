/-!
# Predicates

A filter key ends with a token that names a predicate: a relation between a field and an operand,
and whether it is negated. Every relation has a token and a `not_` token of its own.

* `Predicate.table`: the registered tokens, longest first.
* `Predicate.resolve?`: the predicate that a token names.
-/

namespace KeyedFilter

/-- How a field value may stand to an operand. -/
inductive Relation where
  | equals
  | startsWith
  | endsWith
  | contains
  | less
  | lessOrEqual
  | greater
  | greaterOrEqual
  | blank
deriving DecidableEq, Repr, Inhabited

namespace Relation

/-- All relations, in the order in which they are listed. -/
def all : List Relation :=
  [equals, startsWith, endsWith, contains, less, lessOrEqual, greater, greaterOrEqual, blank]

/-- The token of the relation when it is not negated. -/
def token : Relation → String
  | equals => "eq"
  | startsWith => "sw"
  | endsWith => "ew"
  | contains => "cont"
  | less => "lt"
  | lessOrEqual => "lte"
  | greater => "gt"
  | greaterOrEqual => "gte"
  | blank => "blank"

/-- Does the relation compare by order? -/
def isOrder : Relation → Bool
  | less | lessOrEqual | greater | greaterOrEqual => true
  | _ => false

/-- Does the relation look for one text in another? -/
def isTextual : Relation → Bool
  | startsWith | endsWith | contains => true
  | _ => false

end Relation

/-- A relation, or its negation. -/
structure Predicate where
  relation : Relation
  negated : Bool
deriving DecidableEq, Repr, Inhabited

namespace Predicate

/-- The registered tokens, longest first, so that `not_eq` is found before `eq`. -/
def table : List (String × Predicate) :=
  [("not_blank", ⟨.blank, true⟩), ("not_cont", ⟨.contains, true⟩),
   ("not_lte", ⟨.lessOrEqual, true⟩), ("not_gte", ⟨.greaterOrEqual, true⟩),
   ("not_eq", ⟨.equals, true⟩), ("not_sw", ⟨.startsWith, true⟩), ("not_ew", ⟨.endsWith, true⟩),
   ("not_lt", ⟨.less, true⟩), ("not_gt", ⟨.greater, true⟩), ("blank", ⟨.blank, false⟩),
   ("cont", ⟨.contains, false⟩), ("lte", ⟨.lessOrEqual, false⟩),
   ("gte", ⟨.greaterOrEqual, false⟩), ("eq", ⟨.equals, false⟩), ("sw", ⟨.startsWith, false⟩),
   ("ew", ⟨.endsWith, false⟩), ("lt", ⟨.less, false⟩), ("gt", ⟨.greater, false⟩)]

/-- The token under which the predicate is registered. -/
def token (p : Predicate) : String :=
  (if p.negated then "not_" else "") ++ p.relation.token

/-- Is the negation of the relation registered as well? -/
def hasNegation (relation : Relation) : Bool :=
  table.any (·.2 == ⟨relation, true⟩)

/-- The predicate that a token names. -/
def resolve? (token : String) : Option Predicate :=
  table.lookup token

/-- The table lists each predicate under its token. -/
theorem token_of_mem_table : ∀ entry ∈ table, entry.2.token = entry.1 := by
  decide

/-- Every predicate is found under its token. -/
@[simp] theorem resolve?_token (p : Predicate) : resolve? p.token = some p := by
  obtain ⟨relation, negated⟩ := p
  cases relation <;> cases negated <;> rfl

end Predicate

end KeyedFilter
