import NoteQuery.Value.Json

/-! # Queries

A query names a table, the filters that a record must pass, and what to do with the records that
pass: in which order, how many, which fields, and with which template they are shown.
-/

namespace NoteQuery

/-- Comparison of a field with a filter's value. -/
inductive Comparison where
  | equal | notEqual | less | lessOrEqual | greater | greaterOrEqual
  | matching | notMatching | isIn
deriving DecidableEq, Repr, Inhabited

namespace Comparison

/-- How a comparison is written. -/
def symbol : Comparison → String
  | equal => "="
  | notEqual => "!="
  | less => "<"
  | lessOrEqual => "<="
  | greater => ">"
  | greaterOrEqual => ">="
  | matching => "=~"
  | notMatching => "!=~"
  | isIn => "in"

/-- Every comparison. -/
def all : List Comparison :=
  [equal, notEqual, less, lessOrEqual, greater, greaterOrEqual, matching, notMatching, isIn]

/-- The comparison that is written as `symbol`. -/
def ofSymbol? (symbol : String) : Option Comparison :=
  all.find? (fun c => c.symbol == symbol)

/-- Whether the filter's value is a pattern. -/
def takesPattern : Comparison → Bool
  | matching | notMatching => true
  | _ => false

theorem ofSymbol?_symbol (c : Comparison) : ofSymbol? c.symbol = some c := by
  cases c <;> decide

end Comparison

/-- A condition on one field. -/
structure Filter where
  comparison : Comparison
  field : String
  value : Value
deriving Inhabited

/-- A query. -/
structure Query where
  table : String
  /-- Conditions that a record must all meet. -/
  filters : List Filter := []
  /-- Field by which the records are ordered. -/
  orderBy : Option String := none
  /-- Whether larger values come first. -/
  descending : Bool := false
  /-- Largest number of records. -/
  limit : Option Nat := none
  /-- Fields that the records keep. -/
  select : Option (List String) := none
  /-- Template that shows the records. -/
  render : Option String := none
deriving Inhabited

/-- JSON image of a filter. -/
def Filter.toJson (f : Filter) : Json :=
  .object [("op", .string f.comparison.symbol), ("prop", .string f.field),
    ("value", f.value.toJson)]

/-- JSON image of a query; absent parts are left out, but the direction is always given. -/
def Query.toJson (q : Query) : Json :=
  .object (
    [("table", .string q.table), ("filter", .array (q.filters.map Filter.toJson))] ++
    (q.orderBy.map (fun field => ("orderBy", Json.string field))).toList ++
    [("orderDesc", .bool q.descending)] ++
    (q.limit.map (fun n => ("limit", Json.number (.integer n)))).toList ++
    (q.select.map (fun fields => ("select", Json.array (fields.map Json.string)))).toList ++
    (q.render.map (fun template => ("render", Json.string template))).toList)

end NoteQuery
