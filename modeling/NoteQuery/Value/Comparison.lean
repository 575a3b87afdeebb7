import NoteQuery.Value.Basic

/-! # Comparing values

Three comparisons: `looseEq` for the filters `=`, `!=` and `in`; `compare?` for the ordering
filters, which is only defined between two numbers, two booleans or two texts; and `totalCompare`
for sorting, which ranks the kinds and compares values of one kind by their content.
-/

namespace NoteQuery.Value

/-! ## Loose equality -/

mutual

/-- Loose equality. A missing field equals null, a string equals the page reference with the same
text, lists and maps are compared part by part; values of other different kinds are unequal. -/
def looseEq : Value → Value → Bool
  | undefined, undefined | undefined, null | null, undefined | null, null => true
  | bool a, bool b => a == b
  | number x, number y => x.numericEq y
  | string s, string t | string s, pageRef t | pageRef s, string t | pageRef s, pageRef t => s == t
  | list xs, list ys => looseEqItems xs ys
  | map xs, map ys => looseEqEntries xs ys
  | _, _ => false

/-- Loose equality of lists, item by item. -/
def looseEqItems : List Value → List Value → Bool
  | [], [] => true
  | x :: xs, y :: ys => looseEq x y && looseEqItems xs ys
  | _, _ => false

/-- Loose equality of entries: the same names with loosely equal values. -/
def looseEqEntries : List (String × Value) → List (String × Value) → Bool
  | [], [] => true
  | (k, x) :: xs, (l, y) :: ys => k == l && looseEq x y && looseEqEntries xs ys
  | _, _ => false

end

/-- Whether a list holds an item loosely equal to `x`; a value that is no list holds nothing. -/
def contains (v x : Value) : Bool :=
  match v with
  | list items => items.any (fun item => looseEq item x)
  | _ => false

/-! ## Partial order -/

/-- Order of two numbers, two booleans or two texts; other pairs, and pairs with a NaN, are not
comparable. -/
def compare? : Value → Value → Option Ordering
  | number x, number y => x.compare? y
  | bool a, bool b => some (compare a b)
  | string s, string t | string s, pageRef t | pageRef s, string t | pageRef s, pageRef t =>
    some (compare s t)
  | _, _ => none

/-! ## Total order -/

/-- Place of the value's kind in the sort order. Strings and page references share one. -/
def rank : Value → Nat
  | undefined => 0
  | null => 1
  | bool _ => 2
  | number _ => 3
  | string _ => 4
  | pageRef _ => 4
  | list _ => 5
  | map _ => 6

mutual

/-- Total order of values: by kind, and within a kind by content. -/
def totalCompare : Value → Value → Ordering
  | bool a, bool b => compare a b
  | number x, number y => x.totalCompare y
  | string s, string t | string s, pageRef t | pageRef s, string t | pageRef s, pageRef t =>
    compare s t
  | list xs, list ys => totalCompareItems xs ys
  | map xs, map ys => totalCompareEntries xs ys
  | v, w => compare v.rank w.rank

/-- Lexicographic order of lists. -/
def totalCompareItems : List Value → List Value → Ordering
  | [], [] => .eq
  | [], _ :: _ => .lt
  | _ :: _, [] => .gt
  | x :: xs, y :: ys => (totalCompare x y).then (totalCompareItems xs ys)

/-- Lexicographic order of entries, each by name and then by value. -/
def totalCompareEntries : List (String × Value) → List (String × Value) → Ordering
  | [], [] => .eq
  | [], _ :: _ => .lt
  | _ :: _, [] => .gt
  | (k, x) :: xs, (l, y) :: ys =>
    (compare k l).then ((totalCompare x y).then (totalCompareEntries xs ys))

end

end NoteQuery.Value
