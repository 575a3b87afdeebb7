import NoteQuery.Record
import NoteQuery.Value.Text

/-! # Result tables

Records are shown as a table with one line for each record. The columns are the fields of all
records, in the order in which they are first met.
-/

namespace NoteQuery

open NoteQuery.Text

namespace ResultTable

/-- What is shown when there are no records. -/
def noResults : String := "No results"

/-- Names of the columns: each field once, in the order of first occurrence. -/
def columns (records : List Record) : List String := (records.flatMap Record.keys).eraseDups

/-- A text inside a cell: pipes are escaped, and line ends become spaces. -/
def escapeCell : List Char → List Char
  | [] => []
  | '|' :: cs => '\\' :: '|' :: escapeCell cs
  | c :: cs => (if c = '\r' ∨ c = '\n' then ' ' else c) :: escapeCell cs

/-- The cell of a value. -/
def cell (v : Value) : String := String.ofList (escapeCell v.display.toList)

/-- One line of a table. -/
def line (cells : List String) : String := "|" ++ joinWith "|" cells ++ "|"

/-- The lines of a table with the given columns: their names, a rule, and the records. -/
def lines (columns : List String) (records : List Record) : List String :=
  line columns :: line (columns.map (fun _ => "--")) ::
    records.map (fun record => line (columns.map (fun column => cell (record.field column))))

end ResultTable

/-- Records as a table. -/
def resultTable (records : List Record) : String :=
  if records.isEmpty then ResultTable.noResults
  else joinWith "\n" (ResultTable.lines (ResultTable.columns records) records)

end NoteQuery
