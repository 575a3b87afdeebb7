import NoteQuery.Number.Shortest

/-! # Writing numbers

Two ways to write a binary64 number with its shortest digits. `display` is for people: it never
uses an exponent. `scientific` keeps a window of positional notation and writes an exponent outside
of it; its choices are one `Window` value.
-/

namespace NoteQuery

/-- Text of that many noughts. -/
private def noughts (n : Nat) : String := String.ofList (List.replicate n '0')

namespace Decimal

/-- Text of the digits. -/
def digitText (d : Decimal) : String := toString d.digits

/-- Number of digits before the point; negative when noughts follow the point. -/
def pointPlace (d : Decimal) : Int := d.digitText.length + d.exponent

/-- Positional notation; a whole number ends in `wholeEnd`. -/
def positional (wholeEnd : String) (d : Decimal) : String :=
  let text := d.digitText
  if 0 ≤ d.exponent then text ++ noughts d.exponent.toNat ++ wholeEnd
  else if 0 < d.pointPlace then
    String.ofList (text.toList.take d.pointPlace.toNat) ++ "." ++
      String.ofList (text.toList.drop d.pointPlace.toNat)
  else "0." ++ noughts (-d.pointPlace).toNat ++ text

/-- One digit, the fraction if any, and a signed exponent. -/
def withExponent (d : Decimal) : String :=
  let power := d.pointPlace - 1
  let lead := String.ofList (d.digitText.toList.take 1)
  let fraction := String.ofList (d.digitText.toList.drop 1)
  let sign := if power < 0 then "-" else "+"
  lead ++ (if fraction.isEmpty then "" else "." ++ fraction) ++ "e" ++ sign ++ toString power.natAbs

end Decimal

/-- Where a notation with exponents is positional all the same. -/
structure Window where
  /-- Smallest number of digits before the point that is written positionally. -/
  first : Int
  /-- Largest such number. -/
  last : Int
  /-- End of a whole number in positional notation. -/
  wholeEnd : String
  /-- Choice between two equally near shortest decimals. -/
  tie : TieRule

namespace Binary64

/-- The number for a reader: shortest digits, never an exponent, no point in whole numbers; of two
equally near decimals the larger. -/
def display (x : Binary64) : String :=
  if x.isNaN then "NaN"
  else
    let sign := if x.negative then "-" else ""
    if x.isFinite then sign ++ (x.shortest .up).positional "" else sign ++ "inf"

/-- A finite number with an exponent outside of a window. -/
def scientific (window : Window) (x : Binary64) : String :=
  let d := x.shortest window.tie
  let sign := if x.negative then "-" else ""
  if window.first ≤ d.pointPlace ∧ d.pointPlace ≤ window.last then
    sign ++ d.positional window.wholeEnd
  else sign ++ d.withExponent

end Binary64

end NoteQuery
