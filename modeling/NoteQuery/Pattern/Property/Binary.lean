import NoteQuery.Pattern.Property.Formula

/-! # Binary properties

The binary properties by the names that patterns use: those that have a table, and those that follow
from tables and categories.
-/

namespace NoteQuery.SetFormula

open NoteQuery.Unicode

/-- Small letters, and what counts as one. -/
def lowercase : SetFormula := union [categories [.lowercaseLetter], binary "otherlowercase"]

/-- Capital letters, and what counts as one. -/
def uppercase : SetFormula := union [categories [.uppercaseLetter], binary "otheruppercase"]

/-- Characters that extend the one in front of them. -/
def graphemeExtend : SetFormula :=
  union [categories [.nonspacingMark, .enclosingMark], binary "othergraphemeextend"]

/-- Letters and numbers that are letters. -/
private def letters : SetFormula :=
  categories [.uppercaseLetter, .lowercaseLetter, .titlecaseLetter, .modifierLetter, .otherLetter,
    .letterNumber]

/-- Characters with a fixed meaning in the syntax of patterns. -/
private def reserved : SetFormula := union [binary "patternsyntax", binary "patternwhitespace"]

/-- Characters that can start an identifier. -/
private def identifierStart : SetFormula :=
  without (union [letters, binary "otheridstart"]) reserved

/-- Characters that can be part of an identifier. -/
private def identifierPart : SetFormula :=
  without
    (union [letters, binary "otheridstart", binary "otheridcontinue",
      categories [.nonspacingMark, .spacingMark, .decimalNumber, .connectorPunctuation]])
    reserved

/-- Properties that follow from tables and categories. -/
private def derivedProperties : List (String × SetFormula) :=
  [("alpha alphabetic", alphabetic), ("space wspace whitespace", blank),
   ("lower lowercase", lowercase), ("upper uppercase", uppercase),
   ("cased", union [lowercase, uppercase, categories [.titlecaseLetter]]),
   ("ci caseignorable",
    union [categories [.nonspacingMark, .enclosingMark, .format, .modifierLetter, .modifierSymbol],
      ranges "27 2e 3a b7 387 55f 5f4 2018-2019 2024 2027 fe13 fe52 fe55 ff07 ff0e ff1a"]),
   ("cwcm changeswhencasemapped",
    union [binary "changeswhenlowercased", binary "changeswhentitlecased",
      binary "changeswhenuppercased"]),
   ("grext graphemeextend", graphemeExtend),
   ("grbase graphemebase",
    without (ranges "0-10ffff")
      (union [graphemeExtend,
        categories [.control, .format, .surrogate, .privateUse, .unassigned, .lineSeparator,
          .paragraphSeparator]])),
   ("idc idcontinue", identifierPart), ("ids idstart", identifierStart),
   ("xidc xidcontinue", without identifierPart (ranges unstableParts)),
   ("xids xidstart", without identifierStart (ranges unstableStarts)),
   ("math", union [categories [.mathSymbol], binary "othermath"]),
   ("oalpha otheralphabetic", without (ranges otherAlphabetic) (ranges newcomers))]

/-- The binary property with a name. -/
def ofBinary? (name : String) : Option SetFormula :=
  match named? derivedProperties name with
  | some formula => some formula
  | none => if (named? binaryProperties name).isSome then some (binary name) else none

end NoteQuery.SetFormula
