import NoteQuery.Pattern.Property.Binary

/-! # Break classes

The classes of characters that decide where user-perceived characters, words and sentences end, by
the names that patterns use. The class of all other characters has no set.
-/

namespace NoteQuery.SetFormula

open NoteQuery.Unicode

/-- Signs that stand in front of the characters that they belong to. -/
private def leadingMarks : SetFormula := binary "prependedconcatenationmark"

private def zeroWidthJoiner : SetFormula := ranges "200d"

private def regionalIndicators : SetFormula := binary "regionalindicator"

/-! ## User-perceived characters -/

private def graphemeExtenders : SetFormula := union [graphemeExtend, binary "emojimodifier"]

private def graphemePrefixes : SetFormula :=
  union [leadingMarks, ranges "d4e 111c2-111c3 113d1 1193f 11941 11a3a 11a84-11a89 11d46 11f02"]

/-- Spacing marks that are taken as characters of their own. -/
private def standaloneMarks : SetFormula :=
  ranges "102b-102c 1038 1062-1064 1067-106d 1083 1087-108c 108f 109a-109c 1a61 1a63-1a64 aa7b aa7d
    11720-11721"

private def graphemeBreaks : List (String × SetFormula) :=
  [("cr", ranges "d"), ("lf", ranges "a"), ("zwj", zeroWidthJoiner),
   ("ri regionalindicator", regionalIndicators),
   ("ex extend", graphemeExtenders), ("pp prepend", graphemePrefixes),
   ("cn control",
    without
      (union [categories [.lineSeparator, .paragraphSeparator, .control, .format],
        inter (categories [.unassigned]) (binary "defaultignorablecodepoint")])
      (union [ranges "a d 200c-200d", leadingMarks, graphemeExtenders])),
   ("sm spacingmark",
    without (union [categories [.spacingMark], ranges "e33 eb3"])
      (union [graphemeExtend, standaloneMarks, graphemePrefixes])),
   ("l", ranges "1100-115f a960-a97c"),
   ("v", ranges "1160-11a7 d7b0-d7c6 16d63 16d67-16d6a"),
   ("t", ranges "11a8-11ff d7cb-d7fb"),
   ("lv", spaced 0xac00 0xd7a3 28),
   ("lvt", without (ranges "ac00-d7a3") (spaced 0xac00 0xd7a3 28))]

/-! ## Words -/

private def wordExtenders : SetFormula :=
  union [graphemeExtend, categories [.spacingMark], binary "emojimodifier"]

private def katakana : SetFormula :=
  union [script "katakana", ranges "3031-3035 309b-309c 30a0 30fc ff70"]

private def hebrewLetters : SetFormula := inter (script "hebrew") (categories [.otherLetter])

/-- Characters whose line breaks need a dictionary. -/
private def complexContext : SetFormula :=
  ranges "e01-e3a e40-e4e e81-e82 e84 e86-e8a e8c-ea3 ea5 ea7-ebd ec0-ec4 ec6 ec8-ece edc-edf
    1000-103f 1050-108f 109a-109f 1780-17d3 17d7 17dc-17dd 1950-196d 1970-1974 1980-19ab 19b0-19c9
    19da 19de-19df 1a20-1a5e 1a60-1a7c 1aa0-1aad a9e0-a9ef a9fa-a9fe aa60-aac2 aadb-aadf
    11700-1171a 1171d-1172b 1173a-1173b 1173f-11746"

/-- Signs and symbols that count as letters of a word. -/
private def letterLike : SetFormula :=
  ranges "2c2-2c5 2d2-2d7 2de-2df 2e5-2eb 2ed 2ef-2ff 55a-55c 55e 58a 5f3 70f a708-a716 a720-a721
    a789-a78a ab5b"

/-- Signs that belong to the number behind them. -/
private def numberSigns : SetFormula := without leadingMarks (ranges "70f")

private def wordBreaks : List (String × SetFormula) :=
  [("cr", ranges "d"), ("lf", ranges "a"), ("nl newline", ranges "b-c 85 2028-2029"),
   ("zwj", zeroWidthJoiner), ("ri regionalindicator", regionalIndicators),
   ("dq doublequote", ranges "22"), ("sq singlequote", ranges "27"),
   ("extend", wordExtenders),
   ("fo format",
    without (categories [.format]) (union [ranges "200b-200d", leadingMarks, wordExtenders])),
   ("ka katakana", katakana), ("hl hebrewletter", hebrewLetters),
   ("ml midletter", ranges "3a b7 387 55f 5f4 2027 fe13 fe55 ff1a"),
   ("mb midnumlet", ranges "2e 2018-2019 2024 fe52 ff07 ff0e"),
   ("mn midnum", ranges "2c 3b 37e 589 60c-60d 66c 7f8 2044 fe10 fe14 fe50 fe54 ff0c ff1b"),
   ("nu numeric", union [categories [.decimalNumber], ranges "66b", numberSigns]),
   ("ex extendnumlet", union [categories [.connectorPunctuation], ranges "202f"]),
   ("wsegspace", without (categories [.spaceSeparator]) (ranges "a0 2007 202f")),
   ("le aletter",
    without (union [alphabetic, letterLike])
      (union [binary "ideographic", katakana, complexContext, script "hiragana", wordExtenders,
        hebrewLetters]))]

/-! ## Sentences -/

private def sentenceExtenders : SetFormula :=
  union [graphemeExtend, categories [.spacingMark], zeroWidthJoiner]

private def sentenceLower : SetFormula :=
  without lowercase (union [graphemeExtend, ranges "10d0-10fa 10fd-10ff"])

private def sentenceUpper : SetFormula :=
  without (union [uppercase, categories [.titlecaseLetter]]) (ranges "1c90-1cba 1cbd-1cbf")

private def fullStops : SetFormula := ranges "2e 2024 fe52 ff0e"

private def sentenceEnds : SetFormula := without (binary "sentenceterminal") fullStops

private def quotationMarks : SetFormula :=
  ranges "22 27 ab bb 2018-2019 201b-201d 201f 2039-203a 275b-2760 2e00-2e0d 2e1c-2e1d 2e20-2e21
    1f676-1f678"

private def sentenceBreaks : List (String × SetFormula) :=
  [("cr", ranges "d"), ("lf", ranges "a"), ("se sep", ranges "85 2028-2029"),
   ("ex extend", sentenceExtenders),
   ("fo format",
    without (categories [.format]) (union [ranges "200c-200d", leadingMarks, sentenceExtenders])),
   ("sp", without blank (ranges "a d 85 2028-2029")),
   ("lo lower", sentenceLower), ("up upper", sentenceUpper),
   ("le oletter",
    without (union [alphabetic, ranges "5f3 70f"])
      (union [sentenceLower, sentenceUpper, sentenceExtenders])),
   ("nu numeric", union [categories [.decimalNumber], ranges "66b-66c", numberSigns]),
   ("at aterm", fullStops), ("st sterm", sentenceEnds),
   ("sc scontinue",
    ranges "2c-2d 3a-3b 37e 55d 60c-60d 7f8 1802 1808 2013-2014 3001 fe10-fe11 fe13-fe14 fe31-fe32
      fe50-fe51 fe54-fe55 fe58 fe63 ff0c-ff0d ff1a-ff1b ff64"),
   ("cl close",
    without (union [categories [.openPunctuation, .closePunctuation], quotationMarks])
      (union [ranges "5f3", fullStops, sentenceEnds]))]

/-! ## Names -/

/-- The class for breaks between user-perceived characters with a name. -/
def ofGraphemeBreak? (name : String) : Option SetFormula := named? graphemeBreaks name

/-- The class for breaks between words with a name. -/
def ofWordBreak? (name : String) : Option SetFormula := named? wordBreaks name

/-- The class for breaks between sentences with a name. -/
def ofSentenceBreak? (name : String) : Option SetFormula := named? sentenceBreaks name

end NoteQuery.SetFormula
