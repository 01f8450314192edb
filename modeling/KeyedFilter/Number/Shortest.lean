import KeyedFilter.Number.Decimal

/-!
# Shortest decimals

A double is written with the fewest digits that read back as the same double, and of those the
nearest to it. Which of two equally near ones is taken, and how the digits are laid out, are choices
of a kind of text, made in a `DecimalLayout`.

* `Binary64.shortest`: the digits, without trailing zeros.
* `DecimalLayout.write`: the double as text.
-/

namespace KeyedFilter

/-- Is `num / den` at least `10 ^ e`? -/
def reachesTenPower (num den : Nat) (e : Int) : Bool :=
  if 0 ≤ e then den * powerOfTen e.toNat ≤ num else den ≤ num * powerOfTen (-e).toNat

/-- The exponent of the largest power of ten that is at most `num / den`, both being positive. The
logarithm to base two gives it up to one. -/
def decimalExponent (num den : Nat) : Int :=
  let guess := (binaryExponent num den * 1233).fdiv 4096
  if reachesTenPower num den (guess + 1) then guess + 1
  else if reachesTenPower num den guess then guess
  else guess - 1

/-- `num / den` in units of `10 ^ e`: the whole part, the remainder, and what it is divided by. -/
def inTenPowers (num den : Nat) (e : Int) : Nat × Nat × Nat :=
  if 0 ≤ e then
    let scaled := den * powerOfTen e.toNat
    (num / scaled, num % scaled, scaled)
  else
    let scaled := num * powerOfTen (-e).toNat
    (scaled / den, scaled % den, den)

/-- The number without its last zeros, and how many they were; at most `limit` are removed. -/
def stripZeros : Nat → Nat → Nat × Nat
  | 0, n => (n, 0)
  | limit + 1, n =>
    if n % 10 = 0 && n != 0 then
      let (rest, zeros) := stripZeros limit (n / 10)
      (rest, zeros + 1)
    else (n, 0)

/-- Which of two equally near decimals is taken. -/
inductive TieRule where
  /-- The one whose last digit is even. -/
  | even
  /-- The one that is farther from zero. -/
  | up
deriving DecidableEq, Repr

/-- Is the upper one of two neighbours taken, when the digits of the lower one are `below`? -/
def TieRule.takesUpper : TieRule → Nat → Bool
  | even, below => below % 2 == 1
  | up, _ => true

namespace Binary64

/-- Does the decimal read back as the absolute value of the double? -/
def readsBack (x : Binary64) (digits : Nat) (exponent : Int) : Bool :=
  (Decimal.mk false digits exponent).toBinary64.bits.toNat == x.magnitude

/-- The decimal of `count` digits that stands for the double, when there is one. -/
def decimalOfLength? (x : Binary64) (tie : TieRule) (lead : Int) (count : Nat) :
    Option (Nat × Int) :=
  let unit := lead - count + 1
  let (below, rest, divisor) := inTenPowers x.fraction.1 x.fraction.2 unit
  let lower := x.readsBack below unit
  let upper := x.readsBack (below + 1) unit
  let prefersUpper := divisor < 2 * rest || (2 * rest == divisor && tie.takesUpper below)
  if lower && !(upper && prefersUpper) then some (below, unit)
  else if upper then some (below + 1, unit)
  else none

/-- The shortest decimal of a finite double. Seventeen digits are always enough. -/
def shortest (x : Binary64) (tie : TieRule) : Decimal :=
  if x.magnitude = 0 then ⟨x.negative, 0, 0⟩
  else
    let lead := decimalExponent x.fraction.1 x.fraction.2
    let (digits, unit) :=
      ((List.range 17).findSome? fun i => x.decimalOfLength? tie lead (i + 1)).getD (0, 0)
    let (digits, zeros) := stripZeros 20 digits
    ⟨x.negative, digits, unit + zeros⟩

end Binary64

/-- How the digits of a double are laid out as text. -/
structure DecimalLayout where
  /-- Which of two equally near decimals is written. -/
  tie : TieRule
  /-- The exponents of the first digit for which no exponent is written; all of them if `none`. -/
  positional : Option (Int × Int)
  /-- Is a positive exponent written with a plus sign? -/
  plusSign : Bool
deriving DecidableEq, Repr

namespace DecimalLayout

/-- The digits around the point, with at least one on each side of it. -/
def positionalText (digits : List Char) (exponent : Int) : List Char :=
  let pointAt := digits.length + exponent
  if 0 ≤ exponent then digits ++ List.replicate exponent.toNat '0' ++ ['.', '0']
  else if 0 < pointAt then digits.take pointAt.toNat ++ '.' :: digits.drop pointAt.toNat
  else ['0', '.'] ++ List.replicate (-pointAt).toNat '0' ++ digits

/-- An exponent with its sign. -/
def exponentText (layout : DecimalLayout) (exponent : Int) : List Char :=
  let sign := if exponent < 0 then ['-'] else if layout.plusSign then ['+'] else []
  sign ++ Nat.toDigits 10 exponent.natAbs

/-- One digit, the others behind a point if there are any, and the exponent. -/
def scientificText (layout : DecimalLayout) (digits : List Char) (lead : Int) : List Char :=
  let point := if digits.length ≤ 1 then [] else ['.']
  digits.take 1 ++ point ++ digits.drop 1 ++ 'e' :: layout.exponentText lead

/-- A decimal as text. -/
def writeDecimal (layout : DecimalLayout) (x : Decimal) : List Char :=
  let digits := Nat.toDigits 10 x.digits
  let lead := digits.length - 1 + x.exponent
  let isPositional :=
    match layout.positional with
    | none => true
    | some (least, greatest) => decide (least ≤ lead) && decide (lead ≤ greatest)
  (if x.negative then ['-'] else []) ++
    if isPositional then positionalText digits x.exponent else layout.scientificText digits lead

/-- A double as text. -/
def write (layout : DecimalLayout) (x : Binary64) : String :=
  if x.isNaN then "NaN"
  else if x.isInfinite then (if x.negative then "-inf" else "inf")
  else String.ofList (layout.writeDecimal (x.shortest layout.tie))

/-- Never an exponent, however long the text. -/
def plain : DecimalLayout := ⟨.up, none, false⟩

/-- No exponent from `10 ^ -4` to below `10 ^ 16`. -/
def diagnostic : DecimalLayout := ⟨.up, some (-4, 15), false⟩

/-- No exponent from `10 ^ -5` to below `10 ^ 16`; a positive exponent has a sign too. -/
def document : DecimalLayout := ⟨.even, some (-5, 15), true⟩

end DecimalLayout

end KeyedFilter
