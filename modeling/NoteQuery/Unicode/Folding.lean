import NoteQuery.Text.Basic
import NoteQuery.Unicode.Tables

/-! # Simple case folding

Two characters are equal up to case when they have the same simple case folding. The table gives,
for the members of such a class other than the first, the distance down to the first one.
-/

namespace NoteQuery.Unicode

open NoteQuery.Text

/-- Characters from `first` to `last` in steps, all at one distance above the first member of their
folding class. -/
structure FoldRun where
  first : Nat
  last : Nat
  step : Nat
  distance : Nat

/-- Reads `a-b:d`, `a~b:d` or `a:d`. -/
private def readFoldRun (word : List Char) : FoldRun :=
  let range := word.takeWhile (· != ':')
  let distance := hexValue (word.drop (range.length + 1))
  match splitBy (fun c => c == '-' || c == '~') range with
  | [first, last] => ⟨hexValue first, hexValue last, if range.contains '~' then 2 else 1, distance⟩
  | _ => ⟨hexValue range, hexValue range, 1, distance⟩

/-- Characters of a run, each behind the first member of its class. -/
private def FoldRun.pairs (run : FoldRun) : List (Nat × Nat) :=
  (List.range ((run.last - run.first) / run.step + 1)).map (fun i =>
    let n := run.first + run.step * i
    (n - run.distance, n))

/-- The classes of two or more code points with the same simple case folding. -/
def foldClasses : List (List Nat) :=
  let pairs := ((words caseFolds.toList).flatMap (fun word => (readFoldRun word).pairs)).mergeSort
    (fun a b => a.1 ≤ b.1)
  (pairs.splitBy (fun a b => a.1 == b.1)).map (fun group =>
    (group.take 1).map (·.1) ++ group.map (·.2))

end NoteQuery.Unicode
