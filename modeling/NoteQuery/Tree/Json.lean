import NoteQuery.Json.Basic
import NoteQuery.Tree.Basic

/-! # Trees and JSON

A node is an object with the keys `type`, `text`, `from`, `to` and `children`, each of them
optional; the first four may be null, and other keys are ignored. An array gives the same fields in
this order and may stop early.
-/

namespace NoteQuery.Tree

/-- A text or null. -/
private def readText? : Json → Option (Option String)
  | .null => some none
  | .string s => some (some s)
  | _ => none

/-- A byte offset or null. -/
private def readOffset? : Json → Option (Option Nat)
  | .null => some none
  | .number (.integer n) => if 0 ≤ n then some (some n.toNat) else none
  | _ => none

/-- A label from its optional fields. -/
private def readLabel? (tag text start stop : Option Json) : Option Label := do
  let tag ← readText? (tag.getD .null)
  let text ← readText? (text.getD .null)
  let start ← readOffset? (start.getD .null)
  let stop ← readOffset? (stop.getD .null)
  some { tag, text, start, stop }

mutual

/-- Reads a node. -/
def ofJson? : Json → Option Tree
  | .object members => do
    let label ← readLabel? (Entries.find? "type" members) (Entries.find? "text" members)
      (Entries.find? "from" members) (Entries.find? "to" members)
    let children ← ofJsonChildren? members
    some ⟨label, children⟩
  | .array [] => some ⟨{}, []⟩
  | .array [tag] => (readLabel? tag none none none).map (⟨·, []⟩)
  | .array [tag, text] => (readLabel? tag text none none).map (⟨·, []⟩)
  | .array [tag, text, start] => (readLabel? tag text start none).map (⟨·, []⟩)
  | .array [tag, text, start, stop] => (readLabel? tag text start stop).map (⟨·, []⟩)
  | .array [tag, text, start, stop, .array children] => do
    let label ← readLabel? tag text start stop
    let children ← ofJsonAll? children
    some ⟨label, children⟩
  | _ => none

/-- Reads the children in an object's members; without that key there are none. -/
def ofJsonChildren? : List (String × Json) → Option (List Tree)
  | [] => some []
  | (key, value) :: members =>
    if key = "children" then
      match value with
      | .array items => ofJsonAll? items
      | _ => none
    else ofJsonChildren? members

/-- Reads several nodes. -/
def ofJsonAll? : List Json → Option (List Tree)
  | [] => some []
  | item :: items => do
    let t ← ofJson? item
    let ts ← ofJsonAll? items
    some (t :: ts)

end

mutual

/-- JSON image of a tree; what is absent, and an empty list of children, is left out. -/
def toJson : Tree → Json
  | ⟨label, children⟩ =>
    let text (key : String) (value : Option String) : List (String × Json) :=
      (value.map (fun s => (key, Json.string s))).toList
    let offset (key : String) (value : Option Nat) : List (String × Json) :=
      (value.map (fun n => (key, Json.number (.integer n)))).toList
    .object (text "type" label.tag ++ text "text" label.text ++ offset "from" label.start ++
      offset "to" label.stop ++
      (match children with
       | [] => []
       | t :: ts => [("children", .array (toJson t :: toJsonAll ts))]))

/-- JSON images of trees. -/
def toJsonAll : List Tree → List Json
  | [] => []
  | t :: ts => toJson t :: toJsonAll ts

end

end NoteQuery.Tree
