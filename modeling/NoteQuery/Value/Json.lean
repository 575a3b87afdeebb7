import NoteQuery.Json.Printer
import NoteQuery.Value.Basic

/-! # Values and JSON

`Value.toJson` forgets the difference between a missing field and null and between a page reference
and a string. A number without a fraction below 2⁶³ becomes an integer; a number that is not finite
becomes null. `Value.ofJson` sorts the keys of objects.
-/

namespace NoteQuery.Value

/-- JSON image of a number. -/
def numberToJson (x : Binary64) : Json :=
  if x.isFinite then
    match x.toInt? with
    | some n => if n.natAbs < twoTo 63 then .number (.integer n) else .number (.real x)
    | none => .number (.real x)
  else .null

mutual

/-- JSON image of a value. -/
def toJson : Value → Json
  | undefined => .null
  | null => .null
  | bool b => .bool b
  | number x => numberToJson x
  | string s => .string s
  | pageRef s => .string s
  | list items => .array (toJsonItems items)
  | map entries => .object (toJsonEntries entries)

/-- JSON images of items. -/
def toJsonItems : List Value → List Json
  | [] => []
  | item :: items => toJson item :: toJsonItems items

/-- JSON images of entries. -/
def toJsonEntries : List (String × Value) → List (String × Json)
  | [] => []
  | (key, value) :: entries => (key, toJson value) :: toJsonEntries entries

end

mutual

/-- The value of a JSON tree. -/
def ofJson : Json → Value
  | .null => null
  | .bool b => bool b
  | .number n => number n.toBinary64
  | .string s => string s
  | .array items => list (ofJsonItems items)
  | .object members => mapOf (ofJsonMembers members)

/-- The values of items. -/
def ofJsonItems : List Json → List Value
  | [] => []
  | item :: items => ofJson item :: ofJsonItems items

/-- The values of an object's members, in their order. -/
def ofJsonMembers : List (String × Json) → List (String × Value)
  | [] => []
  | (key, value) :: members => (key, ofJson value) :: ofJsonMembers members

end

end NoteQuery.Value
