import NoteQuery.Entries
import NoteQuery.Number.Binary64

/-! # Values

Records carry no schema, so a field holds a value of any kind. A field that a record does not have
reads as `Value.undefined`. The entries of a map are in ascending order of their names.
-/

namespace NoteQuery

/-- A value of any kind. -/
inductive Value where
  /-- Value of a field that the record does not have. -/
  | undefined
  | null
  | bool (b : Bool)
  | number (x : Binary64)
  | string (s : String)
  /-- Reference to another page, by its name. -/
  | pageRef (page : String)
  | list (items : List Value)
  | map (entries : List (String × Value))
deriving Inhabited

namespace Value

/-- Whether the value is that of a missing field. -/
def isUndefined : Value → Bool
  | undefined => true
  | _ => false

/-- The number of a number value. -/
def number? : Value → Option Binary64
  | number x => some x
  | _ => none

/-- The text of a string or of a page reference. -/
def text? : Value → Option String
  | string s => some s
  | pageRef s => some s
  | _ => none

/-- The items of a list. -/
def list? : Value → Option (List Value)
  | list items => some items
  | _ => none

/-- The map with the given entries; of entries with one name the last counts. -/
def mapOf (entries : List (String × Value)) : Value :=
  map (entries.foldl (fun done entry => Entries.insertSorted entry.1 entry.2 done) [])

end Value

end NoteQuery
