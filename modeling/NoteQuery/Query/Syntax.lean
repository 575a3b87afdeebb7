import NoteQuery.Token.Lexer
import NoteQuery.Tree.Basic

/-! # Syntax of queries

```text
Query        := TableName Clause*
Clause       := ("where" | "and")? FilterExpr | OrderClause | LimitClause | SelectClause
              | RenderClause
FilterExpr   := Name Comparison Value
OrderClause  := "order" "by" Name ("asc" | "desc")?
LimitClause  := "limit" Number
SelectClause := "select" Name ("," Name)*
RenderClause := "render" (PageRef | String)
Value        := Number | Bool | Null | Name | Regex | String | PageRef | List
List         := "[" (Value ("," Value)*)? "]"
```

White space may stand between any two tokens and must stand between clauses. Every token becomes a
leaf of the tree, white space included, so the tree renders to the text that it was read from.

A production is a function from the tokens that are left to the trees that it built and the tokens
behind them.
-/

namespace NoteQuery.Syntax

/-! ## Tokens -/

/-- Words that start a clause and therefore cannot name a table or a field. -/
def clauseKeywords : List String := ["where", "and", "order", "limit", "select", "render"]

/-- Whether a token can name a table or a field. -/
def isName (t : Token) : Bool := t.kind == .identifier && !clauseKeywords.contains t.text

/-- Whether a token is white space. -/
def isBlank (t : Token) : Bool := t.kind == .blank

/-- The error that something else was expected at the front of `tokens`. -/
def expected (what : Expectation) : List Token → ParseError
  | [] => .grammar what none 0
  | t :: _ => .grammar what (if t.kind = .endOfText then none else some t.text) t.start

/-- The leaf of a token. -/
def leafOf (t : Token) : Tree := Tree.leaf t.text t.start t.stop

/-- The leaves of the leading white space. -/
def blanks (tokens : List Token) : List Tree := (tokens.takeWhile isBlank).map leafOf

/-- The tokens behind the leading white space. -/
def afterBlanks (tokens : List Token) : List Token := tokens.dropWhile isBlank

/-- Whether nothing but the end of the text is left. -/
def atEnd : List Token → Bool
  | [] => true
  | t :: _ => t.kind == .endOfText

/-- Takes one token of a class. -/
def take (p : Token → Bool) (what : Expectation) :
    List Token → Except ParseError (Tree × List Token)
  | [] => .error (expected what [])
  | t :: rest => if p t then .ok (leafOf t, rest) else .error (expected what (t :: rest))

/-! ## Names and values -/

/-- The name of the table. -/
def tableName (tokens : List Token) : Except ParseError (Tree × List Token) := do
  let (leaf, rest) ← take isName .tableName tokens
  return (.spanning Tree.Tag.tableName [leaf], rest)

/-- The name of a field. -/
def fieldName (tokens : List Token) : Except ParseError (Tree × List Token) := do
  let (leaf, rest) ← take isName .fieldName tokens
  return (.spanning Tree.Tag.name [leaf], rest)

/-- Tag of a value that is one token. -/
def literalTag? (t : Token) : Option String :=
  match t.kind with
  | .number => some Tree.Tag.number
  | .string => some Tree.Tag.string
  | .regex => some Tree.Tag.regex
  | .pageRef => some Tree.Tag.pageRef
  | .identifier =>
    if t.text = "true" ∨ t.text = "false" then some Tree.Tag.bool
    else if t.text = "null" then some Tree.Tag.null
    else if isName t then some Tree.Tag.name
    else none
  | _ => none

mutual

/-- A value. Nested lists and their items use up fuel, and `fuelFor` gives enough of it. -/
def value : (fuel : Nat) → List Token → Except ParseError (Tree × List Token)
  | 0, tokens => .error (expected .value tokens)
  | _ + 1, [] => .error (expected .value [])
  | fuel + 1, t :: rest =>
    if t.kind = .leftBracket then do
      let (children, rest) ← listBody fuel (afterBlanks rest) (blanks rest)
      return (.spanning Tree.Tag.value [.spanning Tree.Tag.list (leafOf t :: children)], rest)
    else
      match literalTag? t with
      | some tag => .ok (.spanning Tree.Tag.value [.spanning tag [leafOf t]], rest)
      | none => .error (expected .value (t :: rest))

/-- What follows the opening bracket of a list and its white space `gap`. -/
def listBody :
    (fuel : Nat) → List Token → (gap : List Tree) → Except ParseError (List Tree × List Token)
  | 0, tokens, _ => .error (expected .value tokens)
  | _ + 1, [], _ => .error (expected .value [])
  | fuel + 1, t :: rest, gap =>
    if t.kind = .rightBracket then .ok (gap ++ [leafOf t], rest)
    else do
      let (children, rest) ← items fuel (t :: rest)
      return (gap ++ children, rest)

/-- Items of a list up to its closing bracket, at least one. -/
def items : (fuel : Nat) → List Token → Except ParseError (List Tree × List Token)
  | 0, tokens => .error (expected .value tokens)
  | fuel + 1, tokens => do
    let (item, rest) ← value fuel tokens
    let gap := blanks rest
    match afterBlanks rest with
    | [] => .error (expected .commaOrBracket [])
    | t :: rest =>
      if t.kind = .comma then do
        let (children, rest') ← items fuel (afterBlanks rest)
        return (item :: gap ++ leafOf t :: blanks rest ++ children, rest')
      else if t.kind = .rightBracket then .ok (item :: gap ++ [leafOf t], rest)
      else .error (expected .commaOrBracket (t :: rest))

end

/-- Fuel for a value at the front of `tokens`: a list, its body and its item use three units for
each opening bracket, and a further item uses one for its comma. -/
def fuelFor (tokens : List Token) : Nat := 3 * tokens.length + 3

/-! ## Clauses -/

/-- Whether a token compares a field with a value. -/
def isComparison (t : Token) : Bool := t.kind == .operator || t.isWord "in"

/-- A comparison of a field with a value. -/
def filterExpr (tokens : List Token) : Except ParseError (Tree × List Token) := do
  let (field, rest) ← fieldName tokens
  let (operator, rest') ← take isComparison .comparison (afterBlanks rest)
  let (operand, rest'') ← value (fuelFor rest') (afterBlanks rest')
  return (.spanning Tree.Tag.filterExpr
    (field :: blanks rest ++ operator :: blanks rest' ++ [operand]), rest'')

/-- A filter behind `where` or `and`. -/
def connectedFilter (word : Token) (tokens : List Token) :
    Except ParseError (List Tree × List Token) := do
  let (filter, rest) ← filterExpr (afterBlanks tokens)
  return (leafOf word :: blanks tokens ++ [filter], rest)

/-- The direction of an order with the white space before it; without one there is nothing. -/
def direction (tokens : List Token) : List Tree × List Token :=
  match afterBlanks tokens with
  | [] => ([], tokens)
  | t :: rest =>
    if t.isWord "asc" || t.isWord "desc" then
      (blanks tokens ++ [.spanning Tree.Tag.orderDirection [leafOf t]], rest)
    else ([], tokens)

/-- The order of the records, behind the word `order`. -/
def orderClause (word : Token) (tokens : List Token) : Except ParseError (Tree × List Token) := do
  let (by', rest) ← take (·.isWord "by") .byAfterOrder (afterBlanks tokens)
  let (field, rest') ← fieldName (afterBlanks rest)
  let (tail, rest'') := direction rest'
  return (.spanning Tree.Tag.orderClause
    (leafOf word :: blanks tokens ++ by' :: blanks rest ++ field :: tail), rest'')

/-- The number of records, behind the word `limit`. -/
def limitClause (word : Token) (tokens : List Token) : Except ParseError (Tree × List Token) := do
  let (number, rest) ← take (·.kind == .number) .limitNumber (afterBlanks tokens)
  return (.spanning Tree.Tag.limitClause
    (leafOf word :: blanks tokens ++ [.spanning Tree.Tag.number [number]]), rest)

/-- Further names of a selection, each behind a comma. -/
def furtherNames : (fuel : Nat) → List Token → Except ParseError (List Tree × List Token)
  | 0, tokens => .ok ([], tokens)
  | fuel + 1, tokens =>
    match afterBlanks tokens with
    | [] => .ok ([], tokens)
    | t :: rest =>
      if t.kind = .comma then do
        let (field, rest') ← fieldName (afterBlanks rest)
        let (more, rest'') ← furtherNames fuel rest'
        return (blanks tokens ++ leafOf t :: blanks rest ++ field :: more, rest'')
      else .ok ([], tokens)

/-- The fields of the records, behind the word `select`. -/
def selectClause (word : Token) (tokens : List Token) : Except ParseError (Tree × List Token) := do
  let (field, rest) ← fieldName (afterBlanks tokens)
  let (more, rest') ← furtherNames rest.length rest
  return (.spanning Tree.Tag.selectClause (leafOf word :: blanks tokens ++ field :: more), rest')

/-- Tag of a render target that is one token. -/
def targetTag (t : Token) : String :=
  if t.kind = .pageRef then Tree.Tag.pageRef else Tree.Tag.string

/-- The template of the records, behind the word `render`. -/
def renderClause (word : Token) (tokens : List Token) : Except ParseError (Tree × List Token) :=
  match afterBlanks tokens with
  | [] => .error (expected .renderTarget [])
  | t :: rest =>
    if t.kind = .pageRef ∨ t.kind = .string then
      .ok (.spanning Tree.Tag.renderClause
        (leafOf word :: blanks tokens ++ [.spanning (targetTag t) [leafOf t]]), rest)
    else .error (expected .renderTarget (t :: rest))

/-- One clause; its first word says which. -/
def clause (tokens : List Token) : Except ParseError (List Tree × List Token) :=
  match tokens with
  | [] => .error (expected .clause [])
  | t :: rest =>
    if t.kind ≠ .identifier then .error (expected .clause (t :: rest))
    else if t.text = "where" ∨ t.text = "and" then connectedFilter t rest
    else if t.text = "order" then (orderClause t rest).map (fun (c, rest) => ([c], rest))
    else if t.text = "limit" then (limitClause t rest).map (fun (c, rest) => ([c], rest))
    else if t.text = "select" then (selectClause t rest).map (fun (c, rest) => ([c], rest))
    else if t.text = "render" then (renderClause t rest).map (fun (c, rest) => ([c], rest))
    else (filterExpr (t :: rest)).map (fun (c, rest) => ([c], rest))

/-- Clauses up to the end of the text, each behind white space. White space at the end is left. -/
def clauses : (fuel : Nat) → List Token → Except ParseError (List Tree × List Token)
  | 0, tokens => .ok ([], tokens)
  | fuel + 1, tokens =>
    if atEnd (afterBlanks tokens) then .ok ([], tokens)
    else if (blanks tokens).isEmpty then .error (expected .blankBetweenClauses tokens)
    else do
      let (first, rest) ← clause (afterBlanks tokens)
      let (more, rest') ← clauses fuel rest
      return (blanks tokens ++ first ++ more, rest')

/-! ## Queries -/

/-- A table name and its clauses. -/
def query (tokens : List Token) : Except ParseError (Tree × List Token) := do
  let (table, rest) ← tableName tokens
  let (more, rest') ← clauses (rest.length + 1) rest
  return (.spanning Tree.Tag.query (table :: more), rest')

/-- A query that all tokens of a text of `size` bytes are used for. -/
def program (size : Nat) (tokens : List Token) : Except ParseError Tree := do
  let (root, rest) ← query (afterBlanks tokens)
  if atEnd (afterBlanks rest) then
    return ⟨{ tag := some Tree.Tag.program, start := some 0, stop := some size },
      blanks tokens ++ root :: blanks rest⟩
  else
    throw (expected .endOfQuery (afterBlanks rest))

end NoteQuery.Syntax

namespace NoteQuery

/-- The syntax tree of a query text. -/
def Tree.ofSource (source : String) : Except ParseError Tree := do
  let tokens ← tokenize source
  Syntax.program source.utf8ByteSize tokens

end NoteQuery
