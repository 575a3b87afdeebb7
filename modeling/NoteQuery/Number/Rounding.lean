import NoteQuery.Number.Binary64

/-! # Rounding to binary64

`ofRatio` gives the binary64 number nearest to a quotient of natural numbers, an exact half going
to the even significand. Reading decimals and scaling by powers of ten are instances of it.
-/

namespace NoteQuery

/-- Quotient rounded to the nearest natural number, an exact half to the even one. -/
def roundHalfEven (num den : Nat) : Nat :=
  let q := num / den
  let r := num % den
  if 2 * r < den then q
  else if den < 2 * r then q + 1
  else if q % 2 = 0 then q else q + 1

namespace Binary64

/-- Largest `n` with `2 ^ n * den ≤ num`, for a positive quotient. -/
def floorLog2 (num den : Nat) : Int :=
  let guess : Int := (Nat.log2 num : Int) - Nat.log2 den
  if twoTo guess.toNat * den ≤ num * twoTo (-guess).toNat then guess else guess - 1

/-- Power of two of the last place to which a positive quotient is rounded. -/
def placeOf (num den : Nat) : Int :=
  max (-1074) (floorLog2 num den - 52)

/-- The number nearest to `num / den`, with a sign. A significand that rounds up to the next power
of two carries into the exponent field of the magnitude. -/
def ofRatio (negative : Bool) (num den : Nat) : Binary64 :=
  if num = 0 then zero negative
  else
    let place := placeOf num den
    let significand := roundHalfEven (num * twoTo (-place).toNat) (den * twoTo place.toNat)
    let magnitude := (place + 1074).toNat * twoTo 52 + significand
    if magnitude < infinityMagnitude then ofMagnitude negative magnitude else infinity negative

/-- The number nearest to an integer. -/
def ofInt (n : Int) : Binary64 :=
  ofRatio (decide (n < 0)) n.natAbs 1

/-- The number nearest to `digits * 10 ^ exponent`, with a sign. Exponents far outside the range of
the format are decided without the power. -/
def ofDecimal (negative : Bool) (digits : Nat) (exponent : Int) : Binary64 :=
  if digits = 0 then zero negative
  else if exponent > 400 then infinity negative
  else if exponent + Nat.log2 digits < -400 then zero negative
  else ofRatio negative (digits * tenTo exponent.toNat) (tenTo (-exponent).toNat)

/-- Product of two finite numbers, rounded. -/
def mulRounded (x y : Binary64) : Binary64 :=
  ofRatio (x.negative != y.negative) (x.ratio.1 * y.ratio.1) (x.ratio.2 * y.ratio.2)

/-- Quotient of a finite number by a finite number other than zero, rounded. -/
def divRounded (x y : Binary64) : Binary64 :=
  ofRatio (x.negative != y.negative) (x.ratio.1 * y.ratio.2) (x.ratio.2 * y.ratio.1)

end Binary64

end NoteQuery
