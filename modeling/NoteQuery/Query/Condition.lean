import NoteQuery.Pattern.Reader
import NoteQuery.Pattern.Search
import NoteQuery.Query.Basic
import NoteQuery.Query.Error
import NoteQuery.Record
import NoteQuery.Value.Comparison
import NoteQuery.Value.Text

/-! # Conditions

A filter is prepared once for a query: its pattern is read, and what is left is a condition on
values. Whether a filter can be prepared depends on the filter alone.
-/

namespace NoteQuery

/-! ## Conditions on a value -/

namespace Value

/-- The filter `=`. A list field holds the filter's value, or shares an item with the filter's list;
any other field is loosely equal to the filter's value. -/
def meets : (field operand : Value) → Bool
  | list items, list others => items.any (fun item => (list others).contains item)
  | list items, operand => (list items).contains operand
  | field, operand => field.looseEq operand

/-- The filter `<`. -/
def isBelow (field operand : Value) : Bool := field.compare? operand == some .lt

/-- The filter `<=`. -/
def isAtMost (field operand : Value) : Bool :=
  field.compare? operand == some .lt || field.compare? operand == some .eq

/-- The filter `>`. -/
def isAbove (field operand : Value) : Bool := field.compare? operand == some .gt

/-- The filter `>=`. -/
def isAtLeast (field operand : Value) : Bool :=
  field.compare? operand == some .gt || field.compare? operand == some .eq

/-- The filter `=~`: a pattern occurs in the value's match text. -/
def holdsPattern (field : Value) (p : Pattern) : Bool :=
  match field.matchText? with
  | some text => p.occursIn text
  | none => false

end Value

/-! ## Preparing filters -/

namespace Filter

/-- The pattern of a matching filter. -/
def pattern (f : Filter) : Except EvaluationError Pattern :=
  match f.value.matchText? with
  | none => .error (.noPatternText f.field f.comparison.symbol)
  | some source => (Pattern.ofSource source).mapError (.invalidPattern source f.field)

/-- The condition that a filter sets to the value of its field. -/
def valueCondition (f : Filter) : Except EvaluationError (Value → Bool) :=
  match f.comparison with
  | .equal => .ok (fun field => field.meets f.value)
  | .notEqual => .ok (fun field => !field.looseEq f.value)
  | .less => .ok (fun field => field.isBelow f.value)
  | .lessOrEqual => .ok (fun field => field.isAtMost f.value)
  | .greater => .ok (fun field => field.isAbove f.value)
  | .greaterOrEqual => .ok (fun field => field.isAtLeast f.value)
  | .matching => f.pattern.map (fun p field => field.holdsPattern p)
  | .notMatching => f.pattern.map (fun p field => !field.holdsPattern p)
  | .isIn => .ok (fun field => f.value.contains field)

/-- The condition that a filter sets to a record. -/
def condition (f : Filter) : Except EvaluationError (Record → Bool) :=
  f.valueCondition.map (fun holds record => holds (record.field f.field))

/-- The conditions of filters, or the error of the first one that cannot be prepared. -/
def conditions : List Filter → Except EvaluationError (List (Record → Bool))
  | [] => .ok []
  | f :: fs => do
    let first ← f.condition
    let rest ← conditions fs
    return first :: rest

end Filter

/-- Whether a record meets every condition. -/
def Record.meetsAll (record : Record) (conditions : List (Record → Bool)) : Bool :=
  conditions.all (fun condition => condition record)

end NoteQuery
