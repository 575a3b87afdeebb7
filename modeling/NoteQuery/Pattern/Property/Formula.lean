import NoteQuery.Pattern.CharSet
import NoteQuery.Unicode.Properties
import NoteQuery.Unicode.Scripts

/-! # Descriptions of character sets

The sets that patterns can name are described by formulas over the character tables, and built from
them only when a pattern names one.
-/

namespace NoteQuery

open NoteQuery.Text NoteQuery.Unicode

/-- A description of a set of characters. -/
inductive SetFormula where
  /-- Ranges, written as in the character tables. -/
  | ranges (table : String)
  /-- Code points from `first` to `last` in steps. -/
  | spaced (first last step : Nat)
  /-- A binary property that has a table. -/
  | binary (name : String)
  /-- The characters of a script. -/
  | script (name : String)
  /-- Characters of some general categories. -/
  | categories (cs : List Category)
  | alphabetic
  | blank
  | union (fs : List SetFormula)
  | inter (f g : SetFormula)
  /-- Members of the first that are no members of the second. -/
  | without (f g : SetFormula)
deriving Inhabited

/-- Whether a name is one of the names in a list that is separated by spaces. -/
def isAmong (name : String) (names : String) : Bool :=
  (words names.toList).contains name.toList

/-- The entry of a table whose names include a given one. -/
def named? {α : Type} (table : List (String × α)) (name : String) : Option α :=
  (table.find? (fun entry => isAmong name entry.1)).map (·.2)

namespace SetFormula

/-- The set that a table has under a name. -/
private def setNamed (table : List (String × String)) (name : String) : CharSet :=
  .ofRanges (CodeRange.ofTable ((named? table name).getD ""))

mutual

/-- The set that is described. -/
def set : SetFormula → CharSet
  | ranges table => .ofRanges (CodeRange.ofTable table)
  | spaced first last step =>
    .ofRanges ((List.range ((last - first) / step + 1)).map (fun i => .single (first + step * i)))
  | binary name => setNamed binaryProperties name
  | script name => setNamed scripts name
  | categories cs => .categories cs
  | alphabetic => .alphabetic
  | blank => .blank
  | union fs => unionSet fs
  | inter f g => f.set.inter g.set
  | without f g => f.set.diff g.set

/-- The union of the sets that are described. -/
def unionSet : List SetFormula → CharSet
  | [] => .empty
  | f :: fs => f.set.union (unionSet fs)

end

end SetFormula

end NoteQuery
