import NoteQuery.Entries
import NoteQuery.Number.Rounding

/-! # JSON trees

A JSON tree keeps what its text says beyond the values: whether a number was written as an integer,
and the order of an object's keys. A key given twice keeps its first place and its last value.
-/

namespace NoteQuery

/-- A JSON number: an integer of 64 bits, or a binary64 number. -/
inductive JsonNumber where
  | integer (n : Int)
  | real (x : Binary64)
deriving DecidableEq

/-- A JSON tree. -/
inductive Json where
  | null
  | bool (b : Bool)
  | number (n : JsonNumber)
  | string (s : String)
  | array (items : List Json)
  | object (members : List (String × Json))
deriving Inhabited

namespace JsonNumber

/-- The binary64 number nearest to a JSON number. -/
def toBinary64 : JsonNumber → Binary64
  | integer n => Binary64.ofInt n
  | real x => x

end JsonNumber

namespace Json

/-- The value of a member of an object. -/
def member? (key : String) : Json → Option Json
  | object members => Entries.find? key members
  | _ => none

end Json

end NoteQuery
