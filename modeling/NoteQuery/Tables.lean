import NoteQuery.Record

/-! # Tables

The records that queries run on: tables under their names. The names are kept in ascending order.
-/

namespace NoteQuery

/-- Tables by name. -/
structure Tables where
  /-- Each table's name and its records. -/
  entries : Entries (List Record)
  ascending : entries.Ascending

namespace Tables

/-- No tables. -/
def empty : Tables := ⟨[], List.Pairwise.nil⟩

instance : Inhabited Tables := ⟨empty⟩

/-- The records of a table, if the table is known. -/
def records? (tables : Tables) (table : String) : Option (List Record) := tables.entries.find? table

/-- Names of the known tables, in ascending order. -/
def names (tables : Tables) : List String := tables.entries.keys

/-- Adds a table, or replaces the one with its name. -/
def addTable (tables : Tables) (table : String) (records : List Record) : Tables :=
  ⟨tables.entries.insertSorted table records,
    Entries.ascending_insertSorted table records tables.ascending⟩

/-- Appends a record to a table, which is created if it is not known. -/
def push (tables : Tables) (table : String) (record : Record) : Tables :=
  tables.addTable table ((tables.records? table).getD [] ++ [record])

/-- Adds the tables of a JSON object's members, or stops at the first member that is no table. -/
def addMembers : Tables → List (String × Json) → Except DataError Tables
  | tables, [] => .ok tables
  | tables, (name, .array rows) :: members => do
    let records ← Record.ofJsonItems rows
    addMembers (tables.addTable name records) members
  | _, (name, _) :: _ => .error (.tableNotArray name)

/-- The tables of a JSON object whose members are arrays of objects. -/
def ofJson : Json → Except DataError Tables
  | .object members => addMembers empty members
  | _ => .error .dataNotObject

end Tables

end NoteQuery
