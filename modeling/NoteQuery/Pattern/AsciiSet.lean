import NoteQuery.Pattern.CharSet

/-! # ASCII sets

The sets that are written between brackets and colons, and what some escapes stand for in patterns
without Unicode.
-/

namespace NoteQuery.CharSet

private def digits : CharSet := range 0x30 0x39
private def uppers : CharSet := range 0x41 0x5a
private def lowers : CharSet := range 0x61 0x7a

/-- ASCII word characters. -/
def asciiWord : CharSet := unionAll [digits, uppers, lowers, single '_']

/-- ASCII white space. -/
def asciiBlank : CharSet := union (range 0x09 0x0d) (single ' ')

/-- ASCII digits. -/
def asciiDigit : CharSet := digits

/-- The ASCII set with a name. -/
def ofAsciiName? (name : String) : Option CharSet :=
  match name with
  | "alnum" => some (unionAll [digits, uppers, lowers])
  | "alpha" => some (union uppers lowers)
  | "ascii" => some (range 0 0x7f)
  | "blank" => some (union (single '\t') (single ' '))
  | "cntrl" => some (union (range 0 0x1f) (single '\x7f'))
  | "digit" => some digits
  | "graph" => some (range 0x21 0x7e)
  | "lower" => some lowers
  | "print" => some (range 0x20 0x7e)
  | "punct" => some (unionAll [range 0x21 0x2f, range 0x3a 0x40, range 0x5b 0x60, range 0x7b 0x7e])
  | "space" => some asciiBlank
  | "upper" => some uppers
  | "word" => some asciiWord
  | "xdigit" => some (unionAll [digits, range 0x41 0x46, range 0x61 0x66])
  | _ => none

end NoteQuery.CharSet
