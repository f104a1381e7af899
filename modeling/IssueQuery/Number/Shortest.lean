import IssueQuery.Number.Double

/-!
# Shortest decimal text of a double

A double is written with the fewest digits that read back as the same double, and of those with
the ones nearest to it.
-/

namespace IssueQuery

open Number

namespace Double

/-- The decimal `digits * 10 ^ exponent`. -/
structure Decimal where
  digits : Nat
  exponent : Int
  deriving DecidableEq

/-- The rational that a decimal stands for. -/
def Decimal.toRat (d : Decimal) : Rat :=
  d.digits * (10 : Rat) ^ d.exponent

/-- The two neighbours of the positive `q` among the decimals with `count` digits. -/
def neighbours (q : Rat) (count : Nat) : Decimal × Decimal :=
  let exponent := floorLog10 q - (count - 1 : Nat)
  let below := (q / (10 : Rat) ^ exponent).floor.toNat
  (⟨below, exponent⟩, ⟨below + 1, exponent⟩)

/-- The neighbour of the positive `q` with `count` digits that reads back as `q`: the nearer one
if both do, and of two that are equally near the even one. -/
def readBack? (q : Rat) (count : Nat) : Option Decimal :=
  let (lo, hi) := neighbours q count
  let readsBack (d : Decimal) : Bool := round d.toRat = .finite q
  if readsBack lo then
    if readsBack hi then
      let down := q - lo.toRat
      let up := hi.toRat - q
      if down < up then some lo
      else if up < down then some hi
      else if lo.digits % 2 = 0 then some lo
      else some hi
    else some lo
  else if readsBack hi then some hi
  else none

/-- The decimal with the fewest digits that reads back as the positive `q`; seventeen digits are
always enough. -/
def shortest (q : Rat) : Decimal :=
  ((List.range 17).findSome? fun n => readBack? q (n + 1)).getD (neighbours q 17).1

/-- The digits of a decimal without trailing zeros, and the exponent of the first one. -/
def Decimal.scientific (d : Decimal) : List Char × Int :=
  let digits := Nat.toDigits 10 d.digits
  ((digits.reverse.dropWhile (· = '0')).reverse, d.exponent + (digits.length - 1 : Nat))

/-- The exponents that are written without an exponent mark. -/
def isPositional (exponent : Int) : Bool :=
  -4 ≤ exponent && exponent < 16

/-- The exponent mark: a sign and at least two digits. -/
def exponentText (exponent : Int) : List Char :=
  let digits := Nat.toDigits 10 exponent.natAbs
  'e' :: (if exponent < 0 then '-' else '+') ::
    (if digits.length < 2 then '0' :: digits else digits)

/-- The text of a positive decimal with the significant digits `digits`, the first of which has
the weight `10 ^ exponent`. -/
def layout (digits : List Char) (exponent : Int) : List Char :=
  if isPositional exponent then
    if exponent < 0 then
      '0' :: '.' :: List.replicate (exponent.natAbs - 1) '0' ++ digits
    else
      let whole := exponent.toNat + 1
      let rest := digits.drop whole
      digits.take whole ++ List.replicate (whole - digits.length) '0' ++
        '.' :: (if rest.isEmpty then ['0'] else rest)
  else
    match digits with
    | d :: e :: rest => d :: '.' :: e :: rest ++ exponentText exponent
    | _ => digits ++ exponentText exponent

/-- The text of a positive rational that is a double. -/
def positiveText (q : Rat) : List Char :=
  let (digits, exponent) := (shortest q).scientific
  layout digits exponent

/-- The text of a double. -/
def text : Double → String
  | .nan => "nan"
  | .infinity true => "-inf"
  | .infinity false => "inf"
  | .negativeZero => "-0.0"
  | .finite q =>
    if q = 0 then "0.0"
    else if q < 0 then String.ofList ('-' :: positiveText (-q))
    else String.ofList (positiveText q)

end Double

end IssueQuery
