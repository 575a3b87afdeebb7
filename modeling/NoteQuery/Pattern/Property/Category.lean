import NoteQuery.Pattern.Property.Formula

/-! # Named categories

General categories and their groups by the names that patterns use. Surrogates have no set, because
no text holds one.
-/

namespace NoteQuery.SetFormula

open NoteQuery.Unicode

/-- All categories whose abbreviation begins with a letter. -/
private def groupOf (initial : Char) : SetFormula :=
  categories
    ((Category.names.filter (fun entry => entry.2.1.toList.head? == some initial)).map (·.1))

/-- Groups of general categories, and what counts as one. -/
private def categoryGroups : List (String × SetFormula) :=
  [("l letter", groupOf 'L'), ("m mark combiningmark", groupOf 'M'), ("n number", groupOf 'N'),
   ("p punctuation punct", groupOf 'P'), ("s symbol", groupOf 'S'), ("z separator", groupOf 'Z'),
   ("c other", groupOf 'C'),
   ("lc casedletter", categories [.uppercaseLetter, .lowercaseLetter, .titlecaseLetter]),
   ("cntrl", categories [.control]), ("digit", categories [.decimalNumber]),
   ("any", ranges "0-10ffff"), ("ascii", ranges "0-7f"),
   ("assigned", without (ranges "0-10ffff") (categories [.unassigned]))]

/-- The general category, or group of categories, with a name. -/
def ofCategory? (name : String) : Option SetFormula :=
  match named? categoryGroups name with
  | some formula => some formula
  | none =>
    (Category.names.find? (fun (category, abbreviation, long) => category != .surrogate &&
      (String.ofList (abbreviation.toList.map Char.toLower) == name || long == name))).map
        (fun entry => categories [entry.1])

end NoteQuery.SetFormula
