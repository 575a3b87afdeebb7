import NoteQuery.Number.Rounding
import NoteQuery.Text.Basic
import NoteQuery.Unicode.Class

/-! # Reading number texts

A number text is an optional sign and then `inf`, `infinity` or `nan` in any case, or decimal
digits with at most one point, at least one digit, and an optional exponent. It is read as the
nearest binary64 number.
-/

namespace NoteQuery.Binary64

open NoteQuery.Text NoteQuery.Unicode

/-- Reads a sign, if there is one. -/
def readSign : List Char → Bool × List Char
  | '-' :: cs => (true, cs)
  | '+' :: cs => (false, cs)
  | cs => (false, cs)

/-- Reads an exponent part that fills the text; no text is the exponent nought. -/
def readExponent? : List Char → Option Int
  | [] => some 0
  | c :: cs =>
    if c = 'e' ∨ c = 'E' then
      let (negative, digits) := readSign cs
      if digits.isEmpty || !digits.all isAsciiDigit then none
      else some (if negative then -(decimalValue digits : Int) else decimalValue digits)
    else none

/-- Digits after a point, with what follows them; without a point there are none. -/
def readFraction (cs : List Char) : List Char × List Char :=
  match cs with
  | '.' :: cs => cs.span isAsciiDigit
  | _ => ([], cs)

/-- Reads a decimal number without its sign. -/
def readDecimal? (negative : Bool) (cs : List Char) : Option Binary64 :=
  let (whole, rest) := cs.span isAsciiDigit
  let (fraction, rest) := readFraction rest
  if whole.isEmpty && fraction.isEmpty then none
  else
    (readExponent? rest).map (fun exponent =>
      ofDecimal negative (decimalValue (whole ++ fraction)) (exponent - fraction.length))

/-- The number that a text stands for. -/
def ofText? (text : String) : Option Binary64 :=
  let (negative, cs) := readSign text.toList
  let small := cs.map Char.toLower
  if small = "inf".toList ∨ small = "infinity".toList then some (infinity negative)
  else if small = "nan".toList then some (nan negative)
  else readDecimal? negative cs

end NoteQuery.Binary64
