import NoteQuery.Unicode.Category
import NoteQuery.Unicode.CodeRange
import NoteQuery.Unicode.Tables

/-! # Character classes

`category` reads the run table; control characters and ASCII are decided without it. The classes
that the lexer, the marker scanner and patterns use are defined from the category, so which of
them exclude each other follows from the category alone: see `isWord_of_isBlank`.

Two versions of the standard are in use. Names of queries and of settings follow the latest one;
words and digits, which markers and patterns are made of, follow the one before it, in which the
characters of `newcomers` were not assigned. White space is the same in both.
-/

namespace NoteQuery.Unicode

open NoteQuery.Text

/-! ## Reading the run tables -/

/-- One run of the category table: its first code point and its category, or `none` where capital
and small letters alternate. -/
abbrev Run := Nat × Option Category

/-- Reads `41Lu`: code point, then abbreviation. -/
private def readRun (word : List Char) : Run :=
  let start := word.takeWhile (fun c => !c.isUpper)
  let name := String.ofList (word.drop start.length)
  (hexValue start,
    if name == "LC" then none else some ((Category.ofAbbreviation? name).getD .unassigned))

private def categoryTable : Array Run :=
  ((words categoryRuns.toList).map readRun).toArray

private def alphabeticTable : Array CodeRange := (CodeRange.ofTable otherAlphabetic).toArray

private def newcomerTable : Array CodeRange := (CodeRange.ofTable newcomers).toArray

/-- Number of entries at the front of `table` whose start is at most `n`, by bisection between
`low` and `high`. -/
private def countUpTo {α : Type} (start : α → Nat) (table : Array α) (n : Nat) :
    (fuel low high : Nat) → Nat
  | 0, low, _ => low
  | fuel + 1, low, high =>
    if low ≥ high then low
    else
      let middle := (low + high) / 2
      match table[middle]? with
      | none => low
      | some entry =>
        if start entry ≤ n then countUpTo start table n fuel (middle + 1) high
        else countUpTo start table n fuel low middle

/-- The last entry whose start is at most `n`. -/
private def entryAt? {α : Type} (start : α → Nat) (table : Array α) (n : Nat) : Option α :=
  let count := countUpTo start table n 32 0 table.size
  if count = 0 then none else table[count - 1]?

/-- Whether a code point lies in a range of a table. -/
private def isListed (table : Array CodeRange) (n : Nat) : Bool :=
  (entryAt? CodeRange.first table n).any (fun range => n ≤ range.last)

/-! ## Category -/

/-- Category of an ASCII character that is no control character. -/
def asciiCategory (c : Char) : Category :=
  if c = ' ' then .spaceSeparator
  else if '0' ≤ c ∧ c ≤ '9' then .decimalNumber
  else if 'A' ≤ c ∧ c ≤ 'Z' then .uppercaseLetter
  else if 'a' ≤ c ∧ c ≤ 'z' then .lowercaseLetter
  else if c = '_' then .connectorPunctuation
  else if c = '-' then .dashPunctuation
  else if c = '$' then .currencySymbol
  else if c = '(' ∨ c = '[' ∨ c = '\x7b' then .openPunctuation
  else if c = ')' ∨ c = ']' ∨ c = '\x7d' then .closePunctuation
  else if c = '+' ∨ c = '<' ∨ c = '=' ∨ c = '>' ∨ c = '|' ∨ c = '~' then .mathSymbol
  else if c = '^' ∨ c = '\x60' then .modifierSymbol
  else .otherPunctuation

/-- Category of a character by the run table. -/
private def tableCategory (n : Nat) : Category :=
  match entryAt? (fun (run : Run) => run.1) categoryTable n with
  | none => .unassigned
  | some (_, some category) => category
  | some (start, none) => if (n - start) % 2 = 0 then .uppercaseLetter else .lowercaseLetter

/-- Control characters: below the space, and from DEL to the end of the second control block. -/
def isControl (c : Char) : Bool :=
  c.toNat < 0x20 || (0x7f ≤ c.toNat && c.toNat < 0xa0)

/-- General category of a character. -/
def category (c : Char) : Category :=
  if isControl c then .control
  else if c.toNat < 0x80 then asciiCategory c
  else tableCategory c.toNat

/-- Whether the latest version is the first in which a character is assigned. ASCII is decided
without the table. -/
def isNewcomer (c : Char) : Bool := 0x80 ≤ c.toNat && isListed newcomerTable c.toNat

/-- General category of a character in the version before the latest, where newcomers had none and
the reversed glottal stop still counted as a small letter. -/
def earlierCategory (c : Char) : Category :=
  if isNewcomer c then .unassigned
  else if c.toNat = 0x295 then .lowercaseLetter
  else category c

/-! ## Classes -/

/-- White space: the separators and six control characters. -/
def isBlank (c : Char) : Bool :=
  (0x09 ≤ c.toNat && c.toNat ≤ 0x0d) || c.toNat == 0x85 || (category c).isSeparator

/-- Alphabetic characters: letters, letter numbers, and the marks and symbols of a table. -/
def isAlphabetic (c : Char) : Bool :=
  match category c with
  | .nonspacingMark | .spacingMark | .otherSymbol => isListed alphabeticTable c.toNat
  | .letterNumber => true
  | category => category.isLetter

/-- Characters of one of the three number categories. -/
def isNumeric (c : Char) : Bool :=
  (category c).isNumber

/-- Alphabetic or numeric characters. -/
def isAlphanumeric (c : Char) : Bool :=
  isAlphabetic c || isNumeric c

/-- Word characters: alphabetic characters, marks, decimal digits, connectors and the two join
controls, but no newcomers. -/
def isWord (c : Char) : Bool :=
  !isNewcomer c &&
    (isAlphabetic c || (category c).isMark || category c == .decimalNumber ||
      category c == .connectorPunctuation ||
      (c.toNat == 0x200c || c.toNat == 0x200d) && category c == .format)

/-- The ten ASCII digits. -/
def isAsciiDigit (c : Char) : Bool :=
  '0' ≤ c && c ≤ '9'

/-! ## Cuts -/

/-- Where the category changes in runs of the table. -/
private def runCuts : List Run → List Nat
  | [] => []
  | [(start, _)] => [start]
  | (start, some _) :: rest => start :: runCuts rest
  | (start, none) :: (next, category) :: rest =>
    (List.range (next - start)).map (start + ·) ++ runCuts ((next, category) :: rest)

/-- Code points in order, such that two characters without one of them between, or at the latter,
have the same categories and are in the same classes: where the tables change, and what the
definitions above name. -/
def cuts : List Nat :=
  let listed := (alphabeticTable ++ newcomerTable).toList.flatMap (fun r => [r.first, r.last + 1])
  let named := List.range 0x80 ++ [0x85, 0x86, 0x200c, 0x200e, 0x295, 0x296]
  (named ++ runCuts categoryTable.toList ++ listed).mergeSort

/-! ## White space and words -/

/-- White space is a control character or a separator. -/
theorem category_of_isBlank {c : Char} (h : isBlank c = true) :
    category c = .control ∨ (category c).isSeparator = true := by
  simp only [isBlank, Bool.or_eq_true, Bool.and_eq_true, decide_eq_true_eq, beq_iff_eq] at h
  rcases h with (h | h) | h
  · left
    have hc : isControl c = true := by
      simp only [isControl, Bool.or_eq_true, decide_eq_true_eq]
      omega
    simp [category, hc]
  · left
    have hc : isControl c = true := by
      simp only [isControl, Bool.or_eq_true, Bool.and_eq_true, decide_eq_true_eq]
      omega
    simp [category, hc]
  · exact .inr h

/-- White space is never part of a word. -/
theorem isWord_of_isBlank {c : Char} (h : isBlank c = true) : isWord c = false := by
  have hc := category_of_isBlank h
  unfold isWord isAlphabetic
  cases hcat : category c <;> simp_all [Category.isSeparator, Category.isMark, Category.isLetter]

/-- A text without the white space at either end. -/
def trim (cs : List Char) : List Char :=
  ((cs.dropWhile isBlank).reverse.dropWhile isBlank).reverse

end NoteQuery.Unicode
