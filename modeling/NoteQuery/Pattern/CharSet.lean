import NoteQuery.Unicode.Class
import NoteQuery.Unicode.Folding

/-! # Character sets of patterns

A set of characters is kept as the list of its ranges of code points, in order and with a gap
between neighbours, so a set has one form only. No range holds a surrogate.
-/

namespace NoteQuery

open NoteQuery.Unicode

/-- A set of characters. -/
structure CharSet where
  ranges : List CodeRange
  apart : CodeRange.Apart ranges
deriving DecidableEq

namespace CharSet

/-! ## Ranges -/

/-- Joins a range with others, which come in the order of their first code points, where they
overlap or touch. Empty ranges are left out. -/
private def joinFrom (r : CodeRange) : List CodeRange → List CodeRange
  | [] => [r]
  | s :: rest =>
    if s.last < s.first then joinFrom r rest
    else if s.first ≤ r.last + 1 then joinFrom ⟨r.first, Nat.max r.last s.last⟩ rest
    else r :: joinFrom s rest

/-- Joins ranges that overlap or touch. -/
private def joined : List CodeRange → List CodeRange
  | [] => []
  | r :: rest => if r.last < r.first then joined rest else joinFrom r rest

private theorem joinFrom_eq_cons (r : CodeRange) (rest : List CodeRange) :
    ∃ last others, joinFrom r rest = ⟨r.first, last⟩ :: others := by
  induction rest generalizing r with
  | nil => exact ⟨r.last, [], rfl⟩
  | cons s rest ih =>
    unfold joinFrom
    split
    · exact ih r
    · split
      · exact ih ⟨r.first, Nat.max r.last s.last⟩
      · exact ⟨r.last, joinFrom s rest, rfl⟩

private theorem apart_joinFrom {r : CodeRange} (h : r.first ≤ r.last) (rest : List CodeRange) :
    CodeRange.Apart (joinFrom r rest) := by
  induction rest generalizing r with
  | nil => exact h
  | cons s rest ih =>
    unfold joinFrom
    split
    · exact ih h
    · rename_i hs
      split
      · exact ih (Nat.le_trans h (Nat.le_max_left _ _))
      · rename_i hgap
        have hrest := ih (Nat.le_of_not_lt hs)
        obtain ⟨last, others, he⟩ := joinFrom_eq_cons s rest
        rw [he] at hrest ⊢
        exact ⟨h, Nat.lt_of_not_le hgap, hrest⟩

private theorem apart_joined (rs : List CodeRange) : CodeRange.Apart (joined rs) := by
  induction rs with
  | nil => exact trivial
  | cons r rest ih =>
    unfold joined
    split
    · exact ih
    · rename_i h
      exact apart_joinFrom (Nat.le_of_not_lt h) rest

/-- The code points in ranges that come in the order of their first ones. -/
private def ofSorted (rs : List CodeRange) : CharSet := ⟨joined rs, apart_joined rs⟩

/-- What a range holds on the two sides of the surrogates. -/
private def scalars (r : CodeRange) : List CodeRange :=
  [⟨r.first, Nat.min r.last 0xd7ff⟩, ⟨Nat.max r.first 0xe000, r.last⟩]

/-- What lies between ranges from a code point on, and behind the last one. -/
private def gaps (start : Nat) : List CodeRange → List CodeRange
  | [] => [⟨start, 0x10ffff⟩]
  | r :: rest =>
    let others := gaps (r.last + 1) rest
    if start < r.first then ⟨start, r.first - 1⟩ :: others else others

/-- The characters in ranges of any order. -/
def ofRanges (rs : List CodeRange) : CharSet :=
  ofSorted ((rs.flatMap scalars).mergeSort (fun r s => r.first ≤ s.first))

/-! ## Operations -/

/-- The set without members. -/
def empty : CharSet := ⟨[], trivial⟩

instance : Inhabited CharSet := ⟨empty⟩

/-- Characters from one to another. -/
def range (first last : Nat) : CharSet := ofRanges [⟨first, last⟩]

/-- The set of one character. -/
def single (c : Char) : CharSet := range c.toNat c.toNat

/-- The set of all characters. -/
def any : CharSet := range 0 0x10ffff

/-- Members of one of two sets. -/
def union (a b : CharSet) : CharSet :=
  ofSorted (a.ranges.merge b.ranges (fun r s => r.first ≤ s.first))

/-- Members of one of several sets. -/
def unionAll (sets : List CharSet) : CharSet := ofRanges (sets.flatMap ranges)

/-- Characters that are no members. -/
def complement (a : CharSet) : CharSet := ofRanges (gaps 0 a.ranges)

/-- Members of both sets. -/
def inter (a b : CharSet) : CharSet := complement (union (complement a) (complement b))

/-- Members of `a` that are no members of `b`. -/
def diff (a b : CharSet) : CharSet := inter a (complement b)

/-- Members of exactly one of two sets. -/
def symmDiff (a b : CharSet) : CharSet := union (diff a b) (diff b a)

/-- The set, or its complement. -/
def negatedIf (negated : Bool) (s : CharSet) : CharSet := if negated then complement s else s

/-- Whether a code point lies in ranges that come in order. -/
private def listed : List CodeRange → Nat → Bool
  | [], _ => false
  | r :: rest, n => if n ≤ r.last then r.first ≤ n else listed rest n

/-- Whether a code point is a member. -/
def contains (s : CharSet) (n : Nat) : Bool := listed s.ranges n

/-- A set with all characters that equal a member up to case. -/
def folded (s : CharSet) : CharSet :=
  let touched := foldClasses.filter (fun members => members.any s.contains)
  if touched.isEmpty then s else unionAll [s, ofRanges (touched.flatten.map CodeRange.single)]

/-! ## Classes -/

/-- Tests the first character of each range between neighbouring cuts. -/
private def rangesOf (test : Char → Bool) : List Nat → List CodeRange
  | a :: b :: rest =>
    let others := rangesOf test (b :: rest)
    if a < b && test (Char.ofNat a) then ⟨a, b - 1⟩ :: others else others
  | [a] => if test (Char.ofNat a) then [⟨a, 0x10ffff⟩] else []
  | [] => []

/-- The characters that pass a test on categories and classes. -/
def ofTest (test : Char → Bool) : CharSet := ofRanges (rangesOf test cuts)

/-- Word characters. -/
def word : CharSet := ofTest isWord

/-- White space. -/
def blank : CharSet := ofTest isBlank

/-- Alphabetic characters. -/
def alphabetic : CharSet := ofTest (fun c => isAlphabetic c && !isNewcomer c)

/-- Characters of some general categories. -/
def categories (cs : List Category) : CharSet := ofTest (fun c => cs.contains (earlierCategory c))

/-- Decimal digits. -/
def digit : CharSet := categories [.decimalNumber]

end CharSet

end NoteQuery
