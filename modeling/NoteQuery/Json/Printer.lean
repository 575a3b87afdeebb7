import NoteQuery.Json.Basic
import NoteQuery.Number.Notation
import NoteQuery.Text.Basic

/-! # Writing JSON

`Json.compact` writes a tree without blanks, `Json.pretty` on lines indented by two spaces.
-/

namespace NoteQuery

open NoteQuery.Text

/-- Numbers that are no integers are written with shortest digits, of two equally near the even
one; positional notation reaches from 1e-5 to just below 1e16 and whole numbers end in `.0`. -/
def jsonWindow : Window := ⟨-4, 16, ".0", .even⟩

/-- Text of a JSON number; JSON has no text for a number that is not finite. -/
def JsonNumber.text : JsonNumber → String
  | integer n => toString n
  | real x => if x.isFinite then x.scientific jsonWindow else "null"

namespace Json

private def hexDigitChar (n : Nat) : Char :=
  if n < 10 then Char.ofNat ('0'.toNat + n) else Char.ofNat ('a'.toNat + n - 10)

/-- A character inside a JSON string. -/
def escapeChar (c : Char) : List Char :=
  if c = '"' then ['\\', '"']
  else if c = '\\' then ['\\', '\\']
  else if c = '\n' then ['\\', 'n']
  else if c = '\r' then ['\\', 'r']
  else if c = '\t' then ['\\', 't']
  else if c = '\x08' then ['\\', 'b']
  else if c = '\x0c' then ['\\', 'f']
  else if c.toNat < 0x20 then
    ['\\', 'u', '0', '0', hexDigitChar (c.toNat / 16), hexDigitChar (c.toNat % 16)]
  else [c]

/-- A JSON string with its quotes. -/
def quote (s : String) : String :=
  "\"" ++ String.ofList (s.toList.flatMap escapeChar) ++ "\""

mutual

/-- Text of a tree without blanks. -/
def compact : Json → String
  | null => "null"
  | bool b => if b then "true" else "false"
  | number n => n.text
  | string s => quote s
  | array items => "[" ++ joinWith "," (compactItems items) ++ "]"
  | object members => "\x7b" ++ joinWith "," (compactMembers members) ++ "\x7d"

/-- Texts of the items of an array. -/
def compactItems : List Json → List String
  | [] => []
  | item :: items => compact item :: compactItems items

/-- Texts of the members of an object. -/
def compactMembers : List (String × Json) → List String
  | [] => []
  | (key, value) :: members => (quote key ++ ":" ++ compact value) :: compactMembers members

end

/-- Two spaces for each level. -/
private def indentation (depth : Nat) : String :=
  String.ofList (List.replicate (2 * depth) ' ')

/-- Lines between an opening and a closing bracket. -/
private def indentedLines (depth : Nat) (opening closing : String) (lines : List String) : String :=
  if lines.isEmpty then opening ++ closing
  else
    opening ++ "\n" ++ joinWith ",\n" (lines.map (indentation (depth + 1) ++ ·)) ++ "\n" ++
      indentation depth ++ closing

mutual

/-- Text of a tree on indented lines, inside of `depth` brackets. -/
def prettyAt (depth : Nat) : Json → String
  | null => "null"
  | bool b => if b then "true" else "false"
  | number n => n.text
  | string s => quote s
  | array items => indentedLines depth "[" "]" (prettyItems (depth + 1) items)
  | object members => indentedLines depth "\x7b" "\x7d" (prettyMembers (depth + 1) members)

/-- Indented texts of the items of an array. -/
def prettyItems (depth : Nat) : List Json → List String
  | [] => []
  | item :: items => prettyAt depth item :: prettyItems depth items

/-- Indented texts of the members of an object. -/
def prettyMembers (depth : Nat) : List (String × Json) → List String
  | [] => []
  | (key, value) :: members =>
    (quote key ++ ": " ++ prettyAt depth value) :: prettyMembers depth members

end

/-- Text of a tree on lines indented by two spaces. -/
def pretty (tree : Json) : String := prettyAt 0 tree

end Json

end NoteQuery
