import NoteQuery.Query.Syntax
import Mathlib.Data.List.Chain
import Mathlib.Data.List.TakeWhile

/-!
# Derivations

The grammar of queries without a parser. A phrase is a derivation from one symbol of the grammar: it
says which tokens stand at which place of the production. `tokens` is what a phrase derives, and
`tree` the syntax tree that belongs to it.

Two rules are not in the productions. A name is never one of the words that start a clause
(`isName`), and an order clause without a direction does not stand in front of a word that could be
its direction (`Clause.MayPrecede`).
-/

namespace NoteQuery.Syntax

/-! ## Classes of tokens -/

/-- A token of a class. -/
abbrev TokenOf (p : Token → Bool) : Type := { t : Token // p t = true }

/-- A certain word. -/
abbrev Word (word : String) : Type := TokenOf (fun t => t.isWord word)

/-- A token of a kind. -/
abbrev OfKind (kind : TokenKind) : Type := TokenOf (fun t => t.kind == kind)

/-- Whether a token is a value on its own. -/
def isLiteral (t : Token) : Bool :=
  t.kind == .number || t.kind == .string || t.kind == .regex || t.kind == .pageRef || isName t

/-- Whether a token connects a filter with what stands before it. -/
def isConnective (t : Token) : Bool := t.isWord "where" || t.isWord "and"

/-- Whether a token is the direction of an order. -/
def isDirection (t : Token) : Bool := t.isWord "asc" || t.isWord "desc"

/-- Whether a token can say how records are rendered. -/
def isTarget (t : Token) : Bool := t.kind == .pageRef || t.kind == .string

/-- White space between two tokens, which may be missing. -/
structure Gap where
  tokens : List Token
  isBlank_of_mem : ∀ t ∈ tokens, isBlank t = true

/-- The leaves of white space. -/
def Gap.leaves (gap : Gap) : List Tree := gap.tokens.map leafOf

/-! ## Values -/

mutual

/-- A value. -/
inductive ValuePhrase where
  | literal (token : TokenOf isLiteral)
  | emptyList (opening : OfKind .leftBracket) (gap : Gap) (closing : OfKind .rightBracket)
  | list (opening : OfKind .leftBracket) (gap : Gap) (items : ItemPhrases)

/-- The items of a list, and its closing bracket. -/
inductive ItemPhrases where
  | last (item : ValuePhrase) (gap : Gap) (closing : OfKind .rightBracket)
  | more (item : ValuePhrase) (gap : Gap) (comma : OfKind .comma) (gap' : Gap) (items : ItemPhrases)

end

/-- Tag of a value that is one token. -/
def literalTag (t : TokenOf isLiteral) : String := (literalTag? t.1).getD Tree.Tag.name

mutual

def ValuePhrase.tokens : ValuePhrase → List Token
  | .literal token => [token.1]
  | .emptyList opening gap closing => opening.1 :: (gap.tokens ++ [closing.1])
  | .list opening gap items => opening.1 :: (gap.tokens ++ items.tokens)

def ItemPhrases.tokens : ItemPhrases → List Token
  | .last item gap closing => item.tokens ++ (gap.tokens ++ [closing.1])
  | .more item gap comma gap' items =>
    item.tokens ++ (gap.tokens ++ comma.1 :: (gap'.tokens ++ items.tokens))

end

mutual

def ValuePhrase.tree : ValuePhrase → Tree
  | .literal token => .spanning Tree.Tag.value [.spanning (literalTag token) [leafOf token.1]]
  | .emptyList opening gap closing =>
    .spanning Tree.Tag.value
      [.spanning Tree.Tag.list (leafOf opening.1 :: (gap.leaves ++ [leafOf closing.1]))]
  | .list opening gap items =>
    .spanning Tree.Tag.value
      [.spanning Tree.Tag.list (leafOf opening.1 :: (gap.leaves ++ items.trees))]

def ItemPhrases.trees : ItemPhrases → List Tree
  | .last item gap closing => item.tree :: (gap.leaves ++ [leafOf closing.1])
  | .more item gap comma gap' items =>
    item.tree :: (gap.leaves ++ leafOf comma.1 :: (gap'.leaves ++ items.trees))

end

/-! ## Clauses -/

/-- The tree of a field's name. -/
def nameTree (name : TokenOf isName) : Tree := .spanning Tree.Tag.name [leafOf name.1]

/-- A comparison of a field with a value. -/
structure FilterPhrase where
  field : TokenOf isName
  beforeOperator : Gap
  operator : TokenOf isComparison
  beforeOperand : Gap
  operand : ValuePhrase

namespace FilterPhrase

def tokens (f : FilterPhrase) : List Token :=
  f.field.1 ::
    (f.beforeOperator.tokens ++ f.operator.1 :: (f.beforeOperand.tokens ++ f.operand.tokens))

def tree (f : FilterPhrase) : Tree :=
  .spanning Tree.Tag.filterExpr (nameTree f.field ::
    (f.beforeOperator.leaves ++ leafOf f.operator.1 ::
      (f.beforeOperand.leaves ++ [f.operand.tree])))

end FilterPhrase

/-- The word in front of a filter. -/
structure Connective where
  word : TokenOf isConnective
  gap : Gap

/-- The direction of an order. -/
structure DirectionPhrase where
  gap : Gap
  word : TokenOf isDirection

namespace DirectionPhrase

def tokens (d : DirectionPhrase) : List Token := d.gap.tokens ++ [d.word.1]

def trees (d : DirectionPhrase) : List Tree :=
  d.gap.leaves ++ [.spanning Tree.Tag.orderDirection [leafOf d.word.1]]

end DirectionPhrase

/-- The order of the records. -/
structure OrderPhrase where
  word : Word "order"
  beforeBy : Gap
  byWord : Word "by"
  beforeField : Gap
  field : TokenOf isName
  direction : Option DirectionPhrase

namespace OrderPhrase

def tokens (o : OrderPhrase) : List Token :=
  o.word.1 :: (o.beforeBy.tokens ++ o.byWord.1 :: (o.beforeField.tokens ++ o.field.1 ::
    o.direction.elim [] DirectionPhrase.tokens))

def tree (o : OrderPhrase) : Tree :=
  .spanning Tree.Tag.orderClause (leafOf o.word.1 :: (o.beforeBy.leaves ++ leafOf o.byWord.1 ::
    (o.beforeField.leaves ++ nameTree o.field :: o.direction.elim [] DirectionPhrase.trees)))

end OrderPhrase

/-- The number of records. -/
structure LimitPhrase where
  word : Word "limit"
  gap : Gap
  number : OfKind .number

namespace LimitPhrase

def tokens (l : LimitPhrase) : List Token := l.word.1 :: (l.gap.tokens ++ [l.number.1])

def tree (l : LimitPhrase) : Tree :=
  .spanning Tree.Tag.limitClause
    (leafOf l.word.1 :: (l.gap.leaves ++ [.spanning Tree.Tag.number [leafOf l.number.1]]))

end LimitPhrase

/-- A further name of a selection. -/
structure FurtherName where
  beforeComma : Gap
  comma : OfKind .comma
  beforeName : Gap
  name : TokenOf isName

namespace FurtherName

def tokens (n : FurtherName) : List Token :=
  n.beforeComma.tokens ++ n.comma.1 :: (n.beforeName.tokens ++ [n.name.1])

def trees (n : FurtherName) : List Tree :=
  n.beforeComma.leaves ++ leafOf n.comma.1 :: (n.beforeName.leaves ++ [nameTree n.name])

end FurtherName

/-- The fields of the records. -/
structure SelectPhrase where
  word : Word "select"
  gap : Gap
  first : TokenOf isName
  further : List FurtherName

namespace SelectPhrase

def tokens (s : SelectPhrase) : List Token :=
  s.word.1 :: (s.gap.tokens ++ s.first.1 :: s.further.flatMap FurtherName.tokens)

def tree (s : SelectPhrase) : Tree :=
  .spanning Tree.Tag.selectClause
    (leafOf s.word.1 :: (s.gap.leaves ++ nameTree s.first :: s.further.flatMap FurtherName.trees))

end SelectPhrase

/-- The template of the records. -/
structure RenderPhrase where
  word : Word "render"
  gap : Gap
  target : TokenOf isTarget

namespace RenderPhrase

def tokens (r : RenderPhrase) : List Token := r.word.1 :: (r.gap.tokens ++ [r.target.1])

def tree (r : RenderPhrase) : Tree :=
  .spanning Tree.Tag.renderClause
    (leafOf r.word.1 :: (r.gap.leaves ++ [.spanning (targetTag r.target.1) [leafOf r.target.1]]))

end RenderPhrase

/-- A clause. -/
inductive Clause where
  | filter (connective : Option Connective) (filter : FilterPhrase)
  | order (order : OrderPhrase)
  | limit (limit : LimitPhrase)
  | select (select : SelectPhrase)
  | render (render : RenderPhrase)

namespace Clause

def tokens : Clause → List Token
  | filter none f => f.tokens
  | filter (some c) f => c.word.1 :: (c.gap.tokens ++ f.tokens)
  | order o => o.tokens
  | limit l => l.tokens
  | select s => s.tokens
  | render r => r.tokens

def trees : Clause → List Tree
  | filter none f => [f.tree]
  | filter (some c) f => leafOf c.word.1 :: (c.gap.leaves ++ [f.tree])
  | order o => [o.tree]
  | limit l => [l.tree]
  | select s => [s.tree]
  | render r => [r.tree]

/-- Whether the clause is an order without a direction. -/
def lacksDirection : Clause → Bool
  | order o => o.direction.isNone
  | _ => false

/-- Whether the first word of the clause could be the direction of an order. -/
def startsLikeDirection : Clause → Bool
  | filter none f => isDirection f.field.1
  | _ => false

/-- A word behind an order that can be its direction is its direction. -/
def MayPrecede (c next : Clause) : Prop :=
  c.lacksDirection = true → next.startsLikeDirection = false

end Clause

/-! ## Queries -/

/-- A clause behind white space. -/
structure SpacedClause where
  gap : Gap
  gap_ne_nil : gap.tokens ≠ []
  clause : Clause

namespace SpacedClause

def tokens (c : SpacedClause) : List Token := c.gap.tokens ++ c.clause.tokens

def trees (c : SpacedClause) : List Tree := c.gap.leaves ++ c.clause.trees

/-- Whether one clause may stand behind the other. -/
def MayPrecede (c next : SpacedClause) : Prop := c.clause.MayPrecede next.clause

end SpacedClause

/-- A table name and its clauses. -/
structure QueryPhrase where
  table : TokenOf isName
  clauses : List SpacedClause
  isChain : clauses.IsChain SpacedClause.MayPrecede

namespace QueryPhrase

def tokens (q : QueryPhrase) : List Token := q.table.1 :: q.clauses.flatMap SpacedClause.tokens

def tree (q : QueryPhrase) : Tree :=
  .spanning Tree.Tag.query
    (.spanning Tree.Tag.tableName [leafOf q.table.1] :: q.clauses.flatMap SpacedClause.trees)

end QueryPhrase

/-- A query between white space, up to the end of the text. -/
structure Program where
  lead : Gap
  query : QueryPhrase
  trail : Gap
  finish : OfKind .endOfText

namespace Program

def tokens (p : Program) : List Token :=
  p.lead.tokens ++ (p.query.tokens ++ (p.trail.tokens ++ [p.finish.1]))

/-- The tree of a text of `size` bytes. -/
def tree (p : Program) (size : Nat) : Tree :=
  ⟨{ tag := some Tree.Tag.program, start := some 0, stop := some size },
    p.lead.leaves ++ p.query.tree :: p.trail.leaves⟩

end Program

end NoteQuery.Syntax
