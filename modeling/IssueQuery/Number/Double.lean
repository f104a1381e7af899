import IssueQuery.Number.Rounding

/-!
# Doubles

Numbers of double precision, kept as the rationals that they stand for, so that comparing and
adding them is exact arithmetic followed by one rounding.
-/

namespace IssueQuery

open Number

/-- A number of double precision. -/
inductive Double where
  /-- No number. -/
  | nan
  /-- Beyond all finite numbers. -/
  | infinity (negative : Bool)
  /-- The zero that remembers a minus sign. -/
  | negativeZero
  /-- The number `value`; the zero among them has no sign. -/
  | finite (value : Rat)
  deriving DecidableEq, Inhabited

namespace Double

/-- The exponent of the unit in the last place of the doubles around the positive `q`. -/
def unitExponent (q : Rat) : Int :=
  let e := floorLog2 q - 52
  if e < -1074 then -1074 else e

/-- The double nearest to `q`; of two that are equally near, the one with an even last place. -/
def round (q : Rat) : Double :=
  if q = 0 then .finite 0
  else
    let unit := (2 : Rat) ^ unitExponent (magnitude q)
    let value := roundEven (q / unit) * unit
    if value = 0 then (if q < 0 then .negativeZero else .finite 0)
    else if (2 : Rat) ^ (1024 : Int) ≤ magnitude value then .infinity (q < 0)
    else .finite value

/-- The double nearest to `mantissa * 10 ^ exponent`, with a minus sign if `negative`.  Exponents
far outside the range of doubles are settled without computing the power. -/
def ofDecimal (negative : Bool) (mantissa : Nat) (exponent : Int) : Double :=
  let zero : Double := if negative then .negativeZero else .finite 0
  if mantissa = 0 then zero
  else
    let size := digitCount mantissa + exponent
    if 310 < size then .infinity negative
    else if size < -330 then zero
    else
      let q := mantissa * (10 : Rat) ^ exponent
      round (if negative then -q else q)

/-- The rational that a finite double stands for. -/
def toRat? : Double → Option Rat
  | .negativeZero => some 0
  | .finite q => some q
  | _ => none

/-- The integer that a double stands for, if it stands for one. -/
def toInt? (x : Double) : Option Int :=
  match x.toRat? with
  | some q => if q.den = 1 then some q.num else none
  | none => none

/-- The sum of two finite doubles, rounded; a sum with a part that is not finite is that part. -/
def add (x y : Double) : Double :=
  match x.toRat?, y.toRat? with
  | some p, some q => round (p + q)
  | none, _ => x
  | _, none => y

/-- The product of a double and a natural number, rounded. -/
def scale (x : Double) (n : Nat) : Double :=
  match x with
  | .finite q => round (q * n)
  | _ => x

/-- The quotient of a double by a positive natural number, rounded. -/
def divNat (x : Double) (n : Nat) : Double :=
  match x with
  | .finite q => round (q / n)
  | _ => x

/-- The double nearest to `x` rounded to one place after the point. -/
def roundToTenth (x : Double) : Double :=
  match x with
  | .finite q =>
    let tenths := roundEven (q * 10)
    if tenths = 0 ∧ q < 0 then .negativeZero else round (tenths / 10)
  | _ => x

end Double

end IssueQuery
