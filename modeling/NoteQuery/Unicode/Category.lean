/-! # General categories

The general category of a character, its two-letter abbreviation, and the groups that share a
first letter.
-/

namespace NoteQuery.Unicode

/-- General category of a character. -/
inductive Category where
  | uppercaseLetter | lowercaseLetter | titlecaseLetter | modifierLetter | otherLetter
  | nonspacingMark | spacingMark | enclosingMark
  | decimalNumber | letterNumber | otherNumber
  | connectorPunctuation | dashPunctuation | openPunctuation | closePunctuation
  | initialPunctuation | finalPunctuation | otherPunctuation
  | mathSymbol | currencySymbol | modifierSymbol | otherSymbol
  | spaceSeparator | lineSeparator | paragraphSeparator
  | control | format | surrogate | privateUse | unassigned
deriving DecidableEq, Inhabited, Repr

namespace Category

/-- Every category with its abbreviation and its long name in small letters. -/
def names : List (Category × String × String) :=
  [(uppercaseLetter, "Lu", "uppercaseletter"), (lowercaseLetter, "Ll", "lowercaseletter"),
   (titlecaseLetter, "Lt", "titlecaseletter"), (modifierLetter, "Lm", "modifierletter"),
   (otherLetter, "Lo", "otherletter"),
   (nonspacingMark, "Mn", "nonspacingmark"), (spacingMark, "Mc", "spacingmark"),
   (enclosingMark, "Me", "enclosingmark"),
   (decimalNumber, "Nd", "decimalnumber"), (letterNumber, "Nl", "letternumber"),
   (otherNumber, "No", "othernumber"),
   (connectorPunctuation, "Pc", "connectorpunctuation"),
   (dashPunctuation, "Pd", "dashpunctuation"), (openPunctuation, "Ps", "openpunctuation"),
   (closePunctuation, "Pe", "closepunctuation"), (initialPunctuation, "Pi", "initialpunctuation"),
   (finalPunctuation, "Pf", "finalpunctuation"), (otherPunctuation, "Po", "otherpunctuation"),
   (mathSymbol, "Sm", "mathsymbol"), (currencySymbol, "Sc", "currencysymbol"),
   (modifierSymbol, "Sk", "modifiersymbol"), (otherSymbol, "So", "othersymbol"),
   (spaceSeparator, "Zs", "spaceseparator"), (lineSeparator, "Zl", "lineseparator"),
   (paragraphSeparator, "Zp", "paragraphseparator"),
   (control, "Cc", "control"), (format, "Cf", "format"), (surrogate, "Cs", "surrogate"),
   (privateUse, "Co", "privateuse"), (unassigned, "Cn", "unassigned")]

/-- The category with a two-letter abbreviation. -/
def ofAbbreviation? (abbreviation : String) : Option Category :=
  (names.find? (fun entry => entry.2.1 == abbreviation)).map (·.1)

/-- Letters of any kind. -/
def isLetter : Category → Bool
  | uppercaseLetter | lowercaseLetter | titlecaseLetter | modifierLetter | otherLetter => true
  | _ => false

/-- Marks of any kind. -/
def isMark : Category → Bool
  | nonspacingMark | spacingMark | enclosingMark => true
  | _ => false

/-- Numbers of any kind. -/
def isNumber : Category → Bool
  | decimalNumber | letterNumber | otherNumber => true
  | _ => false

/-- Separators of any kind. -/
def isSeparator : Category → Bool
  | spaceSeparator | lineSeparator | paragraphSeparator => true
  | _ => false

end Category

end NoteQuery.Unicode
