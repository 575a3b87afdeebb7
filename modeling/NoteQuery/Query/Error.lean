import NoteQuery.Json.Printer
import NoteQuery.Pattern.Error

/-! # What can go wrong with a query

Each error is a cause; the wording of all causes is in the `message` functions. A place in a syntax
tree is given by the description of its node. A host may also report an error in its own words.
-/

namespace NoteQuery

/-- Literals that need a closing delimiter. -/
inductive Delimited where
  | string | regex | pageReference
deriving DecidableEq, Repr

/-- Name of a delimited literal. -/
def Delimited.noun : Delimited → String
  | string => "string"
  | regex => "regex"
  | pageReference => "page reference"

/-- Why a text has no tokens. -/
inductive LexicalError where
  /-- No token starts with this character. -/
  | unexpected (c : Char)
  /-- A literal is not closed. -/
  | unterminated (literal : Delimited)
  /-- An exclamation mark that starts no operator. -/
  | loneBang
deriving DecidableEq, Repr

/-- Wording of a lexical error. -/
def LexicalError.message : LexicalError → String
  | unexpected c => "Unexpected character '" ++ String.singleton c ++ "'"
  | unterminated literal => "Unterminated " ++ literal.noun
  | loneBang => "Expected '=' after '!'"

/-- What the grammar asks for at one place. -/
inductive Expectation where
  | tableName | fieldName | clause | blankBetweenClauses | comparison | byAfterOrder
  | limitNumber | renderTarget | value | commaOrBracket | endOfQuery
deriving DecidableEq, Repr

/-- Wording of an expectation. -/
def Expectation.phrase : Expectation → String
  | tableName => "a table name"
  | fieldName => "a field name"
  | clause => "a clause"
  | blankBetweenClauses => "whitespace between clauses"
  | comparison => "a comparison operator"
  | byAfterOrder => "'by' after 'order'"
  | limitNumber => "a number after 'limit'"
  | renderTarget => "a page reference or string after 'render'"
  | value => "a value"
  | commaOrBracket => "',' or ']' in list"
  | endOfQuery => "end of query"

/-- Why a tree is no query. Places are descriptions of nodes. -/
inductive ShapeError where
  | missing (what place : String)
  | unexpectedChild (expected place found : String)
  | emptyTableName (place : String)
  | unknownOperator (operator : String)
  | invalidNumber (text place : String)
  | malformedLiteral (text place : String)
  | unrecognizedLiteral (place : String)
  | inadmissibleLimit (shown place : String)
deriving DecidableEq, Repr

/-- Wording of a shape error. -/
def ShapeError.message : ShapeError → String
  | missing what place => "Missing " ++ what ++ " in " ++ place
  | unexpectedChild expected place found =>
    "Expected " ++ expected ++ " in " ++ place ++ ", found " ++ found
  | emptyTableName place => "Empty table name in " ++ place
  | unknownOperator operator => "Unknown filter operator '" ++ operator ++ "'"
  | invalidNumber text place => "Invalid number '" ++ text ++ "' in " ++ place
  | malformedLiteral text place => "Malformed literal '" ++ text ++ "' in " ++ place
  | unrecognizedLiteral place => "Unrecognized literal " ++ place
  | inadmissibleLimit shown place =>
    "Limit must be a non-negative integer, got '" ++ shown ++ "' in " ++ place

/-- Why a text or a tree is no query. -/
inductive ParseError where
  /-- The text has no tokens, from this byte offset on. -/
  | lexical (cause : LexicalError) (offset : Nat)
  /-- The grammar does not allow the token at this byte offset; at the end of the text no token is
  found. -/
  | grammar (expected : Expectation) (found : Option String) (offset : Nat)
  /-- The tree does not have the shape of a query. -/
  | shape (cause : ShapeError)
  /-- A host's own words. -/
  | stated (text : String)
  /-- A host's own words about a byte offset. -/
  | statedAt (text : String) (offset : Nat)
deriving DecidableEq, Repr

/-- Words about a byte offset. -/
def atOffset (text : String) (offset : Nat) : String :=
  text ++ " at offset " ++ toString offset

/-- Wording of a parse error. -/
def ParseError.message : ParseError → String
  | lexical cause offset => atOffset cause.message offset
  | grammar expected found offset =>
    let shown :=
      match found with
      | none => "end of query"
      | some text => "'" ++ text ++ "'"
    atOffset ("Expected " ++ expected.phrase ++ ", found " ++ shown) offset
  | shape cause => cause.message
  | stated text => text
  | statedAt text offset => atOffset text offset

/-- Why a filter cannot be evaluated. -/
inductive EvaluationError where
  /-- The filter's value has no text to use as a pattern. -/
  | noPatternText (field operator : String)
  /-- The filter's pattern is refused. -/
  | invalidPattern (pattern field : String) (cause : PatternError)
  /-- A host's own words. -/
  | stated (text : String)
deriving DecidableEq, Repr

/-- Wording of an evaluation error. -/
def EvaluationError.message : EvaluationError → String
  | noPatternText field operator =>
    "Filter '" ++ field ++ " " ++ operator ++ "' needs a text pattern"
  | invalidPattern pattern field cause =>
    "Invalid regex /" ++ pattern ++ "/ in filter on '" ++ field ++ "'" ++
      (cause.message?.map (": " ++ ·)).getD ""
  | stated text => text

/-- Why JSON data are no records. -/
inductive DataError where
  | recordNotObject (found : Json)
  | tableNotArray (table : String)
  | dataNotObject
  /-- A host's own words. -/
  | stated (text : String)

/-- Wording of a data error. -/
def DataError.message : DataError → String
  | recordNotObject found => "record must be an object, got " ++ found.compact
  | tableNotArray table => "table '" ++ table ++ "' must be an array of records"
  | dataNotObject => "record data must be an object of tables"
  | stated text => text

/-- Why a query has no result. -/
inductive QueryError where
  | parse (cause : ParseError)
  | evaluation (cause : EvaluationError)
  | tableNotFound (table : String)
  | data (cause : DataError)

/-- Wording of a query error, with its kind. -/
def QueryError.message : QueryError → String
  | parse cause => "Parse error: " ++ cause.message
  | evaluation cause => "Evaluation error: " ++ cause.message
  | tableNotFound table => "Table not found: " ++ table
  | data cause => "Type error: " ++ cause.message

/-- JSON image of a query error: its wording. -/
def QueryError.toJson (e : QueryError) : Json := .string e.message

/-! ## Computations that can fail -/

section

variable {ε α β : Type}

theorem ok_bind (a : α) (f : α → Except ε β) : (.ok a >>= f) = f a := rfl

/-- A computation that succeeds has succeeded at every step. -/
theorem exists_of_bind {x : Except ε α} {f : α → Except ε β} {b : β} (h : x >>= f = .ok b) :
    ∃ a, x = .ok a ∧ f a = .ok b := by
  cases x with
  | error e => cases h
  | ok a => exact ⟨a, rfl, h⟩

/-- What a computation is mapped to comes from its own result. -/
theorem exists_of_map {x : Except ε α} {f : α → β} {b : β} (h : x.map f = .ok b) :
    ∃ a, x = .ok a ∧ f a = b := by
  cases x with
  | error e => cases h
  | ok a => exact ⟨a, rfl, Except.ok.inj h⟩

theorem map_eq_error_iff {x : Except ε α} {f : α → β} {e : ε} :
    x.map f = .error e ↔ x = .error e := by
  cases x <;> simp [Except.map]

theorem mapError_eq_ok_iff {ε' : Type} {x : Except ε α} {f : ε → ε'} {a : α} :
    x.mapError f = .ok a ↔ x = .ok a := by
  cases x <;> constructor <;> intro h <;> cases h <;> rfl

theorem toOption_eq_some_iff {x : Except ε α} {a : α} : x.toOption = some a ↔ x = .ok a := by
  cases x <;> simp [Except.toOption]

end

end NoteQuery
