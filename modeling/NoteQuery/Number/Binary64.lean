import NoteQuery.Number.Power

/-! # Binary64 numbers

The numbers of values, queries and JSON are IEEE binary64 numbers. A number is kept as its sign and
the 63 bits below the sign read as a natural number, its *magnitude*: up to the infinity the
magnitude grows with the absolute value, and every larger magnitude is a NaN. So both orders of
numbers are orders of integers, and no operation here rounds.
-/

namespace NoteQuery

/-- A binary64 number: a sign and the 63 bits below it. -/
structure Binary64 where
  /-- Whether the sign bit is set. -/
  negative : Bool
  /-- Exponent field times 2⁵² plus fraction field. -/
  magnitude : Nat
  magnitude_lt : magnitude < twoTo 63
deriving DecidableEq

namespace Binary64

/-- Magnitude of the infinities. -/
def infinityMagnitude : Nat := 2047 * twoTo 52

/-- The number with a sign and a magnitude; a magnitude that does not fit gives the infinity. -/
def ofMagnitude (negative : Bool) (magnitude : Nat) : Binary64 :=
  if h : magnitude < twoTo 63 then ⟨negative, magnitude, h⟩
  else ⟨negative, infinityMagnitude, by decide⟩

/-- Zero with a sign. -/
def zero (negative : Bool) : Binary64 := ⟨negative, 0, by decide⟩

/-- Infinity with a sign. -/
def infinity (negative : Bool) : Binary64 := ⟨negative, infinityMagnitude, by decide⟩

/-- The quiet NaN with no payload. -/
def nan (negative : Bool) : Binary64 := ⟨negative, infinityMagnitude + twoTo 51, by decide⟩

instance : Inhabited Binary64 := ⟨zero false⟩

/-! ## Kinds -/

/-- Whether the number is a NaN. -/
def isNaN (x : Binary64) : Bool := infinityMagnitude < x.magnitude

/-- Whether the number is neither infinite nor a NaN. -/
def isFinite (x : Binary64) : Bool := x.magnitude < infinityMagnitude

/-- Whether the number is a zero of either sign. -/
def isZero (x : Binary64) : Bool := x.magnitude == 0

/-! ## Value of a finite number

A finite number is `significand * 2 ^ exponent` with its sign. -/

/-- Significand: the fraction field, with the leading one that numbers above the subnormal range
do not store. -/
def significand (x : Binary64) : Nat :=
  if x.magnitude < twoTo 52 then x.magnitude else twoTo 52 + x.magnitude % twoTo 52

/-- Power of two of the last place of the significand. -/
def exponent (x : Binary64) : Int :=
  (max (x.magnitude / twoTo 52) 1 : Nat) - 1075

/-- Absolute value of a finite number as a numerator and a denominator. -/
def ratio (x : Binary64) : Nat × Nat :=
  (x.significand * twoTo x.exponent.toNat, twoTo (-x.exponent).toNat)

/-- Absolute value of a finite number without a fraction. -/
def wholeMagnitude? (x : Binary64) : Option Nat :=
  let (num, den) := x.ratio
  if x.isFinite && num % den == 0 then some (num / den) else none

/-- The integer equal to the number, if there is one; both zeros are the integer zero. -/
def toInt? (x : Binary64) : Option Int :=
  x.wholeMagnitude?.map (fun n => if x.negative then -(n : Int) else n)

/-! ## Orders -/

/-- Integer in the numeric order of the numbers that are no NaN; both zeros share one. -/
def orderKey (x : Binary64) : Int :=
  if x.negative then -(x.magnitude : Int) else x.magnitude

/-- Numeric equality: zeros are equal, a NaN equals nothing. -/
def numericEq (x y : Binary64) : Bool :=
  !x.isNaN && !y.isNaN && x.orderKey == y.orderKey

/-- Numeric order; a NaN has no place in it. -/
def compare? (x y : Binary64) : Option Ordering :=
  if x.isNaN || y.isNaN then none else some (compare x.orderKey y.orderKey)

/-- Integer in the total order of all numbers. -/
def totalKey (x : Binary64) : Int :=
  if x.negative then -1 - (x.magnitude : Int) else x.magnitude

/-- Total order: negative NaNs, numbers, positive NaNs, with -0 below +0. -/
def totalCompare (x y : Binary64) : Ordering :=
  compare x.totalKey y.totalKey

end Binary64

end NoteQuery
