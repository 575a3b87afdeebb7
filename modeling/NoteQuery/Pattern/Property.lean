import NoteQuery.Pattern.Property.Break
import NoteQuery.Pattern.Property.Category
import NoteQuery.Pattern.Property.Script

/-! # Named character sets

The sets that a pattern can name between braces: by a name alone, or by a property and a value. Case
does not matter in names, and neither do spaces, underscores and hyphens.
-/

namespace NoteQuery.CharSet

/-- A name without an `is` at its front, in small letters, and without spaces, underscores, hyphens
and characters beyond ASCII. What is left of `isc` keeps its front, so it is not the name `c`. -/
def normalizeName (name : List Char) : List Char :=
  let (hadIs, name) :=
    match name with
    | a :: b :: rest =>
      if a.toLower = 'i' ∧ b.toLower = 's' then (true, rest) else (false, name)
    | _ => (false, name)
  let small := (name.filter (fun c => c.toNat < 0x80 && !" _-".toList.contains c)).map Char.toLower
  if hadIs && small == ['c'] then ['i', 's', 'c'] else small

/-- The set with a name: a binary property, a general category, or a script. -/
def ofProperty? (name : List Char) : Option CharSet :=
  let name := String.ofList (normalizeName name)
  (SetFormula.ofBinary? name <|> SetFormula.ofCategory? name <|> SetFormula.ofScript? name).map
    SetFormula.set

/-- The set with a value of a property. -/
def ofPropertyValue? (property value : List Char) : Option CharSet :=
  let property := String.ofList (normalizeName property)
  let value := String.ofList (normalizeName value)
  let formula? :=
    if isAmong property "gc generalcategory" then SetFormula.ofCategory? value
    else if isAmong property "sc script" then SetFormula.ofScript? value
    else if isAmong property "scx scriptextensions" then SetFormula.ofScriptExtension? value
    else if isAmong property "age" then SetFormula.ofAge? value
    else if isAmong property "gcb graphemeclusterbreak" then SetFormula.ofGraphemeBreak? value
    else if isAmong property "wb wordbreak" then SetFormula.ofWordBreak? value
    else if isAmong property "sb sentencebreak" then SetFormula.ofSentenceBreak? value
    else none
  formula?.map SetFormula.set

end NoteQuery.CharSet
