import KeyedFilter.Number.Binary64

/-!
# Decimal numerals

The texts that denote a number, and the numbers that they denote. A numeral is an optional sign,
then digits with an optional point among or around them, then an optional exponent. There must be a
digit before the exponent, and one in it. The words `inf`, `infinity` and `nan` count too, in any
case.

* `readInt?`: sign and digits only.
* `readBinary64?`: any numeral, as the nearest double.
-/

namespace KeyedFilter

/-- A power of ten. -/
def powerOfTen (n : Nat) : Nat := Nat.pow 10 n

/-- The digits as a number, the first being the highest. -/
def digitsValue (digits : List Char) : Nat :=
  digits.foldl (fun n c => 10 * n + (c.toNat - 48)) 0

/-- A sign at the front: whether it is a minus, and what follows. -/
def takeSign (text : List Char) : Bool × List Char :=
  match text with
  | '-' :: rest => (true, rest)
  | '+' :: rest => (false, rest)
  | rest => (false, rest)

/-- The whole number that an optional sign and one or more digits denote. -/
def readInt? (text : List Char) : Option Int :=
  let (minus, digits) := takeSign text
  if digits.isEmpty || !digits.all Char.isDigit then none
  else some (if minus then -(digitsValue digits : Int) else digitsValue digits)

/-- The decimal number `± digits * 10 ^ exponent`. -/
structure Decimal where
  negative : Bool
  digits : Nat
  exponent : Int
deriving DecidableEq, Repr

namespace Decimal

/-- `digits * 10 ^ exponent` as a fraction. -/
def fraction (x : Decimal) : Nat × Nat :=
  if 0 ≤ x.exponent then (x.digits * powerOfTen x.exponent.toNat, 1)
  else (x.digits, powerOfTen (-x.exponent).toNat)

/-- The exponent of the first digit, counted as if the point stood after it. -/
def leadingExponent (x : Decimal) : Int :=
  (Nat.toDigits 10 x.digits).length - 1 + x.exponent

/-- The double nearest to the decimal. Numbers beyond `10 ^ 310` are infinite and numbers below
`10 ^ -330` are zero in any case, so their powers of ten are not written out. -/
def toBinary64 (x : Decimal) : Binary64 :=
  Binary64.ofSign x.negative <|
    if x.digits = 0 then 0
    else if 310 < x.leadingExponent then binary64.infinity
    else if x.leadingExponent < -330 then 0
    else binary64.nearest x.fraction.1 x.fraction.2

end Decimal

/-- The exponent part of a numeral: nothing, or `e` with an optional sign and digits. -/
def readExponent? (text : List Char) : Option Int :=
  match text with
  | [] => some 0
  | e :: rest => if e == 'e' || e == 'E' then readInt? rest else none

/-- The decimal that an unsigned numeral denotes. -/
def readDecimal? (negative : Bool) (text : List Char) : Option Decimal :=
  let whole := text.takeWhile Char.isDigit
  let afterWhole := text.dropWhile Char.isDigit
  let (decimals, rest) :=
    match afterWhole with
    | '.' :: more => (more.takeWhile Char.isDigit, more.dropWhile Char.isDigit)
    | more => ([], more)
  if whole.isEmpty && decimals.isEmpty then none
  else
    (readExponent? rest).map fun exponent =>
      ⟨negative, digitsValue (whole ++ decimals), exponent - decimals.length⟩

/-- The double that a numeral or one of the number words denotes. -/
def readBinary64? (text : List Char) : Option Binary64 :=
  let (minus, rest) := takeSign text
  let word := String.ofList (rest.map Char.toLower)
  if word == "inf" || word == "infinity" then some (Binary64.infinite minus)
  else if word == "nan" then some Binary64.nan
  else (readDecimal? minus rest).map Decimal.toBinary64

end KeyedFilter
