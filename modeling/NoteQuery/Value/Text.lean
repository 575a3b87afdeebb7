import NoteQuery.Value.Json

/-! # Texts of values

`display` is what tables and messages show. `matchText?` is what a pattern is matched against:
missing fields and maps have no such text, so a pattern never sees the word `undefined`.
-/

namespace NoteQuery.Value

open NoteQuery.Text

mutual

/-- The value for a reader. -/
def display : Value → String
  | undefined => ""
  | null => "null"
  | bool b => if b then "true" else "false"
  | number x => x.display
  | string s => s
  | pageRef s => "[[" ++ s ++ "]]"
  | list items => joinWith ", " (displayItems items)
  | map entries => (toJson (map entries)).compact

/-- Items for a reader. -/
def displayItems : List Value → List String
  | [] => []
  | item :: items => display item :: displayItems items

end

mutual

/-- The text that a pattern is matched against. -/
def matchText? : Value → Option String
  | undefined => none
  | null => some "null"
  | bool b => some (if b then "true" else "false")
  | number x => some x.display
  | string s => some s
  | pageRef s => some s
  | list items => some (joinWith "," (matchTexts items))
  | map _ => none

/-- Match texts of items; an item without one counts as empty. -/
def matchTexts : List Value → List String
  | [] => []
  | item :: items => (matchText? item).getD "" :: matchTexts items

end

end NoteQuery.Value
