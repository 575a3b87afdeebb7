import NoteQuery.Number.Binary64

/-! # Shortest decimals

The decimals that read back as a finite number `x` fill an interval around `x`, the *rounding
interval*: its ends lie halfway to the neighbours of `x`, and belong to it when the significand of
`x` is even. `shortest` takes the coarsest decimal grid with a point in that interval, and on this
grid the point nearest to `x`.
-/

namespace NoteQuery

/-- A decimal number without its sign: `digits * 10 ^ exponent`. -/
structure Decimal where
  /-- The digits read as one number. -/
  digits : Nat
  /-- Power of ten of the last digit. -/
  exponent : Int
deriving DecidableEq, Repr

/-- Which of two grid points at the same distance is taken. -/
inductive TieRule where
  /-- The larger one. -/
  | up
  /-- The one with an even last digit. -/
  | even
deriving DecidableEq, Repr

namespace Binary64

/-- Rounding interval of a number, in units that also measure the number itself. -/
structure RoundingInterval where
  /-- The number. -/
  center : Nat
  /-- Halfway to the next smaller number. -/
  lower : Nat
  /-- Halfway to the next larger number. -/
  upper : Nat
  /-- Whether the ends read back as the number. -/
  closed : Bool
  /-- The unit is `2 ^ unit`. -/
  unit : Int

/-- Rounding interval of a positive finite number, in quarters of its last place. Below a power of
two the next smaller number is only half a place away. -/
def roundingInterval (x : Binary64) : RoundingInterval :=
  let s := x.significand
  { center := 4 * s
    lower := if s = twoTo 52 ∧ twoTo 53 ≤ x.magnitude then 4 * s - 1 else 4 * s - 2
    upper := 4 * s + 2
    closed := s % 2 = 0
    unit := x.exponent - 2 }

/-- The point of the grid of multiples of `10 ^ place` that lies in the interval and is nearest to
its center, if the grid has a point there. -/
def gridPoint? (tie : TieRule) (i : RoundingInterval) (place : Int) : Option Nat :=
  let scale := twoTo i.unit.toNat * tenTo (-place).toNat
  let step := twoTo (-i.unit).toNat * tenTo place.toNat
  let below := i.center * scale / step
  let excess := i.center * scale - below * step
  let lowerIn :=
    if i.closed then i.lower * scale ≤ below * step else i.lower * scale < below * step
  let upperIn :=
    if i.closed then (below + 1) * step ≤ i.upper * scale else (below + 1) * step < i.upper * scale
  let nearerBelow :=
    2 * excess < step || (2 * excess == step && tie == .even && below % 2 == 0)
  if lowerIn ∧ (¬ upperIn ∨ nearerBelow) then some below
  else if upperIn then some (below + 1)
  else none

/-- The coarsest grid from `place` downwards that has a point in the interval. -/
def coarsest (tie : TieRule) (i : RoundingInterval) : (fuel : Nat) → (place : Int) → Decimal
  | 0, place => ⟨0, place⟩
  | fuel + 1, place =>
    match gridPoint? tie i place with
    | some digits => ⟨digits, place⟩
    | none => coarsest tie i fuel (place - 1)

/-- Power of ten above the rounding interval of a finite number. -/
def topPlace (x : Binary64) : Int :=
  (x.exponent + 54) * 30103 / 100000 + 2

/-- The decimal with the fewest digits that reads back as the absolute value of a finite number, the
nearest to it of those. Zero has the digit nought. -/
def shortest (tie : TieRule) (x : Binary64) : Decimal :=
  if x.isZero then ⟨0, 0⟩ else coarsest tie x.roundingInterval 400 x.topPlace

end Binary64

end NoteQuery
