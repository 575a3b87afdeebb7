import NoteQuery.Query.Error
import NoteQuery.Value.Json

/-! # Records

A record is one row without a schema: named values in the order in which the names were first
given, each name once.
-/

namespace NoteQuery

/-- Fields of one row. -/
structure Record where
  /-- The fields, in order. -/
  fields : Entries Value
  nodup_keys : fields.keys.Nodup

namespace Record

/-- The record without fields. -/
def empty : Record := ⟨[], List.nodup_nil⟩

instance : Inhabited Record := ⟨empty⟩

/-- The value of a field that the record has. -/
def get? (r : Record) (field : String) : Option Value := r.fields.find? field

/-- The value of a field; missing fields are undefined. -/
def field (r : Record) (field : String) : Value := (r.get? field).getD .undefined

/-- Sets a field. It keeps its place if the record has it and goes to the end otherwise. -/
def insert (r : Record) (field : String) (value : Value) : Record :=
  ⟨r.fields.put field value, Entries.nodup_keys_put field value r.nodup_keys⟩

theorem nodup_keys_replace (r : Record) (field : String) (value : Value) :
    (r.fields.replace field value).2.keys.Nodup := by
  rw [Entries.replace_eq]
  exact Entries.nodup_keys_put field value r.nodup_keys

/-- Sets a field and returns the value that it replaces. -/
def replace (r : Record) (field : String) (value : Value) : Option Value × Record :=
  ((r.fields.replace field value).1, ⟨_, r.nodup_keys_replace field value⟩)

/-- A field is set as an insertion sets it, and what comes back is the value that it had. -/
theorem replace_eq (r : Record) (field : String) (value : Value) :
    r.replace field value = (r.get? field, r.insert field value) := by
  simp only [replace, insert, get?, Entries.replace_eq]

/-- Names of the fields, in order. -/
def keys (r : Record) : List String := r.fields.keys

/-- Number of fields. -/
def size (r : Record) : Nat := r.fields.length

/-- Whether the record has no fields. -/
def isEmpty (r : Record) : Bool := r.fields.isEmpty

/-- The record with the given fields; a repeated name sets its field again. -/
def ofList (fields : List (String × Value)) : Record :=
  fields.foldl (fun r entry => r.insert entry.1 entry.2) empty

/-- JSON image: an object with the fields in order. -/
def toJson (r : Record) : Json := .object (Value.toJsonEntries r.fields)

/-- The record of a JSON object, its keys in order. -/
def ofJson : Json → Except DataError Record
  | .object members => .ok (ofList (Value.ofJsonMembers members))
  | other => .error (.recordNotObject other)

/-- The records of JSON objects, or the error of the first item that is none. -/
def ofJsonItems : List Json → Except DataError (List Record)
  | [] => .ok []
  | item :: items => do
    let record ← ofJson item
    let records ← ofJsonItems items
    return record :: records

end Record

/-- JSON image of a list of records. -/
def recordsToJson (records : List Record) : Json := .array (records.map Record.toJson)

end NoteQuery
