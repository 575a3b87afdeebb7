import NoteQuery.Text.Basic

/-! # Ranges of code points

The character tables are written as ranges of code points; they are read here. `Apart` says that
ranges are in order and touch nowhere.
-/

namespace NoteQuery.Unicode

open NoteQuery.Text

/-- Code points from `first` to `last`. -/
structure CodeRange where
  first : Nat
  last : Nat
deriving DecidableEq, Inhabited, Repr

namespace CodeRange

/-- Whether a code point lies in a range. -/
def contains (r : CodeRange) (n : Nat) : Bool :=
  r.first ≤ n && n ≤ r.last

/-- The range of one code point. -/
def single (n : Nat) : CodeRange := ⟨n, n⟩

/-- Ranges that are not empty, in order, each with a gap before the next one. -/
def Apart : List CodeRange → Prop
  | [] => True
  | [r] => r.first ≤ r.last
  | r :: s :: rest => r.first ≤ r.last ∧ r.last + 1 < s.first ∧ Apart (s :: rest)

/-- Every second code point from `first` on, each as a range. -/
private def everySecond (first last : Nat) : List CodeRange :=
  (List.range ((last - first) / 2 + 1)).map (fun i => single (first + 2 * i))

/-- Reads `a-b`, `a~b` or `a`. -/
private def ofWord (word : List Char) : List CodeRange :=
  match splitBy (fun c => c == '-' || c == '~') word with
  | [first, last] =>
    if word.contains '~' then everySecond (hexValue first) (hexValue last)
    else [⟨hexValue first, hexValue last⟩]
  | _ => [single (hexValue word)]

/-- The ranges that a table holds, in the order in which they are written. -/
def ofTable (table : String) : List CodeRange :=
  (words table.toList).flatMap ofWord

end CodeRange

end NoteQuery.Unicode
