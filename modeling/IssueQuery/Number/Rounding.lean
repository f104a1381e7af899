/-!
# Rounding of rational numbers

Rounding to the nearest integer with ties to the even neighbour, and the position of the leading
binary and decimal digit of a positive rational.
-/

namespace IssueQuery.Number

/-- The integer nearest to `q`; of two that are equally near, the even one. -/
def roundEven (q : Rat) : Int :=
  let below := q.floor
  let rest := q - below
  if rest < 1 / 2 then below
  else if 1 / 2 < rest then below + 1
  else if below % 2 = 0 then below
  else below + 1

/-- The magnitude of a rational. -/
def magnitude (q : Rat) : Rat :=
  if q < 0 then -q else q

/-- The exponent of the greatest power of two that is not above the positive `q`. -/
def floorLog2 (q : Rat) : Int :=
  let guess : Int := (q.num.natAbs.log2 : Int) - q.den.log2
  if (2 : Rat) ^ guess ≤ q then guess else guess - 1

/-- The number of decimal digits of `n`. -/
def digitCount (n : Nat) : Nat :=
  (Nat.toDigits 10 n).length

/-- The exponent of the greatest power of ten that is not above the positive `q`. -/
def floorLog10 (q : Rat) : Int :=
  let guess : Int := (digitCount q.num.natAbs : Int) - digitCount q.den
  if (10 : Rat) ^ guess ≤ q then guess else guess - 1

end IssueQuery.Number
