import NoteQuery.Number.Reading
import NoteQuery.Proofs.Lexemes
import NoteQuery.Query.Syntax

/-!
# Queries as they are written

What a person writes down to ask for a query: a table, and clauses in any order, as often as one
likes. The types carry what makes a text well-formed, so every `QueryText` has a text that is a
query. `words` are the tokens to be written, `text` puts one blank between neighbours, and `query`
is the query that is asked for.
-/

namespace NoteQuery

open Text

namespace QueryText

/-- What a token is made of, wherever it stands. -/
structure Word where
  kind : TokenKind
  text : String
deriving DecidableEq, Repr

namespace Word

def keyword (text : String) : Word := ⟨.identifier, text⟩

def comma : Word := ⟨.comma, ","⟩

def leftBracket : Word := ⟨.leftBracket, "["⟩

def rightBracket : Word := ⟨.rightBracket, "]"⟩

end Word

/-! ## Names and literals -/

/-- An identifier that starts no clause. -/
structure Name where
  first : Char
  others : List Char
  startsName : Lexer.startsName first = true
  continuesName : ∀ c ∈ others, Lexer.continuesName c = true
  not_mem_clauseKeywords : String.ofList (first :: others) ∉ Syntax.clauseKeywords

namespace Name

def text (n : Name) : String := String.ofList (n.first :: n.others)

def word (n : Name) : Word := ⟨.identifier, n.text⟩

end Name

/-- Digits, perhaps a point and further digits, perhaps a minus sign in front. -/
structure Numeral where
  negative : Bool
  whole : List Char
  fraction : Option (List Char)
  isDigits_whole : IsDigits whole
  isDigits_fraction : ∀ digits ∈ fraction, IsDigits digits

namespace Numeral

def toList (n : Numeral) : List Char :=
  (if n.negative then ['-'] else []) ++
    (n.whole ++ n.fraction.elim [] (fun digits => '.' :: digits))

def word (n : Numeral) : Word := ⟨.number, String.ofList n.toList⟩

/-- The number nearest to what the digits say. -/
def number (n : Numeral) : Binary64 :=
  Binary64.ofDecimal n.negative (decimalValue (n.whole ++ n.fraction.getD []))
    (-((n.fraction.getD []).length : Int))

end Numeral

/-- Text between quotes of one kind that holds no such quote. -/
structure Quoted where
  quote : Char
  body : List Char
  isQuote : quote = '"' ∨ quote = '\''
  isPlain : ∀ c ∈ body, c ≠ quote ∧ c ≠ '\\'

namespace Quoted

def text (q : Quoted) : String := String.ofList q.body

def word (q : Quoted) : Word := ⟨.string, String.ofList (q.quote :: (q.body ++ [q.quote]))⟩

end Quoted

/-- A pattern without slashes and escapes, on one line. -/
structure Regex where
  body : List Char
  isPlain : ∀ c ∈ body, c ≠ '/' ∧ c ≠ '\\' ∧ c ≠ '\n'

namespace Regex

def text (r : Regex) : String := String.ofList r.body

def word (r : Regex) : Word := ⟨.regex, String.ofList ('/' :: (r.body ++ ['/']))⟩

end Regex

/-- The name of a page, on one line, in which the brackets behind it do not begin. -/
structure PageName where
  body : List Char
  not_mem_newline : '\n' ∉ body
  not_closed : ¬ [']', ']'] <:+: body
  last_ne : ∀ c ∈ body.getLast?, c ≠ ']'

namespace PageName

def text (p : PageName) : String := String.ofList p.body

def word (p : PageName) : Word := ⟨.pageRef, String.ofList ('[' :: '[' :: (p.body ++ [']', ']']))⟩

end PageName

/-! ## Values -/

/-- Words that stand for a value of their own and not for a name. -/
def valueWords : List String := ["true", "false", "null"]

/-- A value as it is written. -/
inductive Operand where
  | numeral (n : Numeral)
  | bool (b : Bool)
  | null
  | name (n : Name) (h : n.text ∉ valueWords)
  | quoted (q : Quoted)
  | regex (r : Regex)
  | page (p : PageName)
  | list (items : List Operand)

namespace Operand

mutual

/-- The value that is meant. -/
def value : Operand → Value
  | numeral n => .number n.number
  | bool b => .bool b
  | null => .null
  | name n _ => .string n.text
  | quoted q => .string q.text
  | regex r => .string r.text
  | page p => .pageRef p.text
  | list items => .list (values items)

def values : List Operand → List Value
  | [] => []
  | item :: items => item.value :: values items

end

mutual

def words : Operand → List Word
  | numeral n => [n.word]
  | bool b => [.keyword (if b then "true" else "false")]
  | null => [.keyword "null"]
  | name n _ => [n.word]
  | quoted q => [q.word]
  | regex r => [r.word]
  | page p => [p.word]
  | list [] => [.leftBracket, .rightBracket]
  | list (item :: items) => .leftBracket :: (item.words ++ (furtherWords items ++ [.rightBracket]))

/-- Items of a list, each behind a comma. -/
def furtherWords : List Operand → List Word
  | [] => []
  | item :: items => .comma :: (item.words ++ furtherWords items)

end

end Operand

/-! ## Clauses -/

/-- The word in front of a filter. -/
inductive Connective where
  | whereWord
  | andWord

def Connective.word : Connective → Word
  | whereWord => .keyword "where"
  | andWord => .keyword "and"

/-- The word that compares a field with a value. -/
def comparisonWord (c : Comparison) : Word :=
  if c = .isIn then .keyword c.symbol else ⟨.operator, c.symbol⟩

/-- The direction of an order. -/
inductive Direction where
  | ascending
  | descending
deriving DecidableEq

def Direction.word : Direction → Word
  | ascending => .keyword "asc"
  | descending => .keyword "desc"

/-- Digits of a number that a binary64 number can count up to. -/
structure Count where
  digits : List Char
  isDigits : IsDigits digits
  le_twoTo : decimalValue digits ≤ twoTo 53

namespace Count

def number (c : Count) : Nat := decimalValue c.digits

def word (c : Count) : Word := ⟨.number, String.ofList c.digits⟩

end Count

/-- The template of the records. -/
inductive Target where
  | page (p : PageName)
  | quoted (q : Quoted)

namespace Target

def text : Target → String
  | page p => p.text
  | quoted q => q.text

def word : Target → Word
  | page p => p.word
  | quoted q => q.word

end Target

inductive Clause where
  | filter (connective : Connective) (field : Name) (comparison : Comparison) (operand : Operand)
  | order (field : Name) (direction : Option Direction)
  | limit (count : Count)
  | select (first : Name) (further : List Name)
  | render (target : Target)

namespace Clause

def words : Clause → List Word
  | filter connective field comparison operand =>
    connective.word :: field.word :: comparisonWord comparison :: operand.words
  | order field direction =>
    .keyword "order" :: .keyword "by" :: field.word :: direction.toList.map Direction.word
  | limit count => [.keyword "limit", count.word]
  | select first further =>
    .keyword "select" :: first.word :: further.flatMap (fun n => [.comma, n.word])
  | render target => [.keyword "render", target.word]

def filter? : Clause → Option Filter
  | filter _ field comparison operand => some ⟨comparison, field.text, operand.value⟩
  | _ => none

/-- The field, and whether larger values come first. -/
def order? : Clause → Option (String × Bool)
  | order field direction => some (field.text, direction = some .descending)
  | _ => none

def limit? : Clause → Option Nat
  | limit count => some count.number
  | _ => none

def select? : Clause → Option (List String)
  | select first further => some (first.text :: further.map Name.text)
  | _ => none

def render? : Clause → Option String
  | render target => some target.text
  | _ => none

end Clause

end QueryText

/-- A query as it is written. -/
structure QueryText where
  table : QueryText.Name
  clauses : List QueryText.Clause

namespace QueryText

def words (q : QueryText) : List Word := q.table.word :: q.clauses.flatMap Clause.words

/-- The words with single blanks between them. -/
def text (q : QueryText) : String := joinWith " " (q.words.map Word.text)

/-- The query that is asked for: every filter counts, and the first clause of every other kind. -/
def query (q : QueryText) : Query where
  table := q.table.text
  filters := q.clauses.filterMap Clause.filter?
  orderBy := (q.clauses.findSome? Clause.order?).map Prod.fst
  descending := ((q.clauses.findSome? Clause.order?).map Prod.snd).getD false
  limit := q.clauses.findSome? Clause.limit?
  select := q.clauses.findSome? Clause.select?
  render := q.clauses.findSome? Clause.render?

end QueryText

end NoteQuery
