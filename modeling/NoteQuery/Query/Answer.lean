import NoteQuery.Query.Condition
import NoteQuery.Query.OfTree
import NoteQuery.Tables

/-! # Answers

The answer of a query keeps the records that meet every filter, orders them, cuts the list to the
limit, and reduces each record to the selected fields. Records with equal keys stay in their order,
in both directions. There is no partial answer: if one filter cannot be prepared, the query fails.
-/

namespace NoteQuery

/-- The record with exactly the given fields, missing ones undefined. -/
def Record.project (record : Record) (fields : List String) : Record :=
  Record.ofList (fields.map (fun field => (field, record.field field)))

namespace Query

/-- Whether the first of two records may come before the second in the order of a field. -/
def inOrder (field : String) (descending : Bool) (a b : Record) : Bool :=
  let order := (a.field field).totalCompare (b.field field)
  if descending then order.isGE else order.isLE

/-- Records in the order that the query asks for. -/
def ordered (q : Query) (records : List Record) : List Record :=
  match q.orderBy with
  | none => records
  | some field => records.mergeSort (inOrder field q.descending)

/-- As many records as the limit allows, from the front. -/
def limited (q : Query) (records : List Record) : List Record :=
  match q.limit with
  | none => records
  | some n => records.take n

/-- Records reduced to the selected fields. -/
def projected (q : Query) (records : List Record) : List Record :=
  match q.select with
  | none => records
  | some fields => records.map (fun record => record.project fields)

/-- The answer of a query on the records of its table. -/
def answer (q : Query) (records : List Record) : Except EvaluationError (List Record) := do
  let conditions ← Filter.conditions q.filters
  let accepted := records.filter (fun record => record.meetsAll conditions)
  return q.projected (q.limited (q.ordered accepted))

end Query

/-- Where records come from: the records of each table that is known. -/
abbrev RecordSource := String → Option (List Record)

namespace RecordSource

/-- The answer of a query on the table that it names. -/
def answer (source : RecordSource) (q : Query) : Except QueryError (List Record) :=
  match source q.table with
  | none => .error (.tableNotFound q.table)
  | some records => (q.answer records).mapError .evaluation

/-- The answer of the query that a text spells. -/
def answerText (source : RecordSource) (text : String) : Except QueryError (List Record) := do
  let q ← (Query.ofText text).mapError .parse
  source.answer q

end RecordSource

namespace Tables

/-- Tables as a source of records. -/
def source (tables : Tables) : RecordSource := tables.records?

/-- The answer of a query on the table that it names. -/
def answer (tables : Tables) (q : Query) : Except QueryError (List Record) := tables.source.answer q

/-- The answer of the query that a text spells. -/
def answerText (tables : Tables) (text : String) : Except QueryError (List Record) :=
  tables.source.answerText text

end Tables

end NoteQuery
