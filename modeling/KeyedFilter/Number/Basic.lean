import KeyedFilter.Number.Decimal
import KeyedFilter.Text.Blank

/-!
# Numbers

A number is a signed word, an unsigned word or a double. The three are compared by exact value: no
whole number is rounded on the way.

* `Number.compare?`: the order of two numbers, none when one is a NaN.
* `Number.compareTotal`: the same order with every NaN put last.
* `Number.read?`: the number that a text denotes; whole numbers stay whole while a word holds them.
-/

namespace KeyedFilter

/-- A number in one of three representations. -/
inductive Number where
  | signed (n : Int64)
  | unsigned (n : UInt64)
  | double (x : Binary64)
deriving DecidableEq, Repr

namespace Number

/-- The largest signed word. -/
def maxSigned : Int := Int64.maxValue.toInt

/-- The smallest signed word. -/
def minSigned : Int := Int64.minValue.toInt

/-- The largest unsigned word. -/
def maxUnsigned : Int := UInt64.size - 1

/-- A whole number in the first representation that holds it, signed before unsigned. -/
def ofInt? (n : Int) : Option Number :=
  if minSigned ≤ n ∧ n ≤ maxSigned then some (.signed (Int64.ofInt n))
  else if 0 ≤ n ∧ n ≤ maxUnsigned then some (.unsigned (UInt64.ofNat n.toNat))
  else none

/-- The whole number, unless it is a double. -/
def toInt? : Number → Option Int
  | .signed n => some n.toInt
  | .unsigned n => some n.toNat
  | .double _ => none

/-- The nearest double. -/
def toBinary64 : Number → Binary64
  | .signed n => .ofInt n.toInt
  | .unsigned n => .ofInt n.toNat
  | .double x => x

/-- Is it a NaN? -/
def isNaN : Number → Bool
  | .double x => x.isNaN
  | _ => false

/-- The order of a whole number and any number. -/
def compareInt? (n : Int) : Number → Option Ordering
  | .signed m => some (compare n m.toInt)
  | .unsigned m => some (compare n m.toNat)
  | .double x => x.compareInt? n

/-- The order of two numbers by exact value, none when one is a NaN. -/
def compare? (a b : Number) : Option Ordering :=
  match a with
  | .signed n => b.compareInt? n.toInt
  | .unsigned n => b.compareInt? n.toNat
  | .double x =>
    match b with
    | .signed m => (x.compareInt? m.toInt).map Ordering.swap
    | .unsigned m => (x.compareInt? m.toNat).map Ordering.swap
    | .double y => x.compare? y

/-- The order for sorting, in which every NaN comes after all other numbers. -/
def compareTotal (a b : Number) : Ordering :=
  (a.compare? b).getD (compare a.isNaN b.isNaN)

/-- Same representation and same payload; as doubles, a NaN differs from itself and the zeros are
one. -/
def same : Number → Number → Bool
  | .signed a, .signed b => a == b
  | .unsigned a, .unsigned b => a == b
  | .double a, .double b => a.same b
  | _, _ => false

/-- An unsigned word that a signed one can hold, as the signed one. Documents do not tell them
apart. -/
def normalize : Number → Number
  | .unsigned n => (ofInt? n.toNat).getD (.unsigned n)
  | n => n

/-- Text that denotes a whole number which a word holds. A minus sign is not for unsigned words. -/
def readWord? (text : List Char) : Option Number :=
  (readInt? text).bind fun n =>
    match text with
    | '-' :: _ => if minSigned ≤ n then some (.signed (Int64.ofInt n)) else none
    | _ => ofInt? n

/-- The number that a text denotes, blanks around it aside: a whole number where a word holds it,
else the nearest double. A NaN is no number here. -/
def read? (text : String) : Option Number :=
  let text := Text.trim text.toList
  match readWord? text with
  | some n => some n
  | none => ((readBinary64? text).filter (!·.isNaN)).map .double

end Number

end KeyedFilter
