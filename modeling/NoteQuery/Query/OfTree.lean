import NoteQuery.Number.Reading
import NoteQuery.Query.Basic
import NoteQuery.Query.Syntax
import NoteQuery.Value.Text

/-! # The query of a syntax tree

The tree may come from the grammar or from a host that has read a whole document. Only tags and the
texts of leaves count, after white space between nodes is dropped:

- the first child of the first child names the table;
- the first order, limit, select and render clauses count, and every filter does.
-/

namespace NoteQuery.Tree

open NoteQuery.Unicode

/-! ## White space -/

/-- What becomes of a node without tag: it goes if it has nothing but white space, else its text is
trimmed. -/
def normalizeNode (t : Tree) : Replacement :=
  match t.tag, t.text with
  | some _, _ => .keep t.label
  | none, none => .remove
  | none, some text =>
    let trimmed := trim text.toList
    if trimmed.isEmpty then .remove
    else .keep { t.label with text := some (String.ofList trimmed) }

/-- The tree without white space between its tagged nodes and around its texts. -/
def normalize (t : Tree) : Tree := t.mapBelow normalizeNode

/-! ## Parts of a node -/

/-- The error that a node lacks something. -/
def missing {α : Type} (what : String) (parent : Tree) : Except ShapeError α :=
  .error (.missing what parent.describe)

/-- The child at an index, which must have a tag. -/
def childAt (parent : Tree) (index : Nat) (tag : String) : Except ShapeError Tree :=
  match parent.children[index]? with
  | none => missing tag parent
  | some node =>
    if node.hasTag tag then .ok node
    else .error (.unexpectedChild tag parent.describe node.describe)

/-- The literal of a value node. -/
def literalOf (parent : Tree) : Except ShapeError Tree :=
  match parent.children with
  | [] => missing "literal" parent
  | node :: _ => .ok node

/-- The first node with a tag in a node. -/
def require (parent : Tree) (tag : String) : Except ShapeError Tree :=
  match parent.find? tag with
  | none => missing tag parent
  | some node => .ok node

/-- Text of a node's first child. -/
def leafText (node : Tree) : Except ShapeError String :=
  match node.children.head?.bind Tree.text with
  | none => missing "text" node
  | some text => .ok text

/-- Byte offsets of a text without `width` characters at each end: that of the character behind the
first `width` ones, counted from the front, and that of the first of the last `width` ones, counted
from the back. In a text that is too short such a character is missing, or the offsets cross. -/
def strippedRange? (text : String) (width : Nat) : Option (Nat × Nat) :=
  let offsets := Text.charOffsets 0 text.toList
  match offsets[width]?, offsets.reverse[width - 1]? with
  | some start, some stop => if start ≤ stop then some (start, stop) else none
  | _, _ => none

/-- Leaf text without `width` characters at each end. -/
def strippedText (node : Tree) (width : Nat) : Except ShapeError String := do
  let text ← leafText node
  match strippedRange? text width with
  | some (start, stop) => return String.Pos.Raw.extract text ⟨start⟩ ⟨stop⟩
  | none => throw (.malformedLiteral text node.describe)

/-! ## Literals -/

mutual

/-- Value of a literal node. -/
def literal : Tree → Except ShapeError Value
  | ⟨label, children⟩ =>
    let node : Tree := ⟨label, children⟩
    if node.hasTag Tag.number then do
      let text ← leafText node
      match Binary64.ofText? text with
      | some x => return .number x
      | none => throw (.invalidNumber text node.describe)
    else if node.hasTag Tag.bool then do
      let text ← leafText node
      return .bool (text == "true")
    else if node.hasTag Tag.null then return .null
    else if node.hasTag Tag.name then do
      let text ← leafText node
      return .string text
    else if node.hasTag Tag.regex || node.hasTag Tag.string then do
      let text ← strippedText node 1
      return .string text
    else if node.hasTag Tag.pageRef then do
      let text ← strippedText node 2
      return .pageRef text
    else if node.hasTag Tag.list then do
      let items ← itemValues children
      return .list items
    else throw (.unrecognizedLiteral node.describe)

/-- Values of the outermost value nodes, from left to right. -/
def itemValues : List Tree → Except ShapeError (List Value)
  | [] => return []
  | t :: ts => do
    let first ← itemValuesIn t
    let rest ← itemValues ts
    return first ++ rest

/-- Values of the outermost value nodes in a tree. -/
def itemValuesIn : Tree → Except ShapeError (List Value)
  | ⟨label, children⟩ =>
    if hasTag Tag.value ⟨label, children⟩ then
      match children with
      | [] => missing "literal" ⟨label, children⟩
      | node :: _ => do
        let item ← literal node
        return [item]
    else itemValues children

end

/-! ## Clauses -/

/-- The filter of a filter node. -/
def toFilter (node : Tree) : Except ShapeError Filter := do
  let field ← leafText (← childAt node 0 Tag.name)
  let symbol ←
    match node.children[1]?.bind Tree.text with
    | none => missing "comparison operator" node
    | some symbol => pure symbol
  let comparison ←
    match Comparison.ofSymbol? symbol with
    | none => throw (.unknownOperator symbol)
    | some comparison => pure comparison
  let operand ← childAt node 2 Tag.value
  let value ← literal (← literalOf operand)
  return { comparison, field, value }

/-- The filters of filter nodes. -/
def toFilters : List Tree → Except ShapeError (List Filter)
  | [] => return []
  | node :: nodes => do
    let filter ← toFilter node
    let filters ← toFilters nodes
    return filter :: filters

/-- The field and the direction of an order clause. -/
def toOrder (node : Tree) : Except ShapeError (String × Bool) := do
  let field ← leafText (← require node Tag.name)
  match node.find? Tag.orderDirection with
  | none => return (field, false)
  | some direction => return (field, (← leafText direction) == "desc")

/-- Largest limit; larger numbers count as this one. -/
def maxLimit : Nat := twoTo 64 - 1

/-- The limit that a number sets: it must be whole and not negative. -/
def admissibleLimit? (x : Binary64) : Option Nat :=
  match x.wholeMagnitude? with
  | none => none
  | some n => if x.negative ∧ n ≠ 0 then none else some (min n maxLimit)

/-- The number of a limit clause. -/
def toLimit (node : Tree) : Except ShapeError Nat := do
  let number ← require node Tag.number
  let value ← literal number
  match value.number?.bind admissibleLimit? with
  | some n => return n
  | none => throw (.inadmissibleLimit value.display number.describe)

/-- Texts of name nodes. -/
def toNames : List Tree → Except ShapeError (List String)
  | [] => return []
  | node :: nodes => do
    let name ← leafText node
    let names ← toNames nodes
    return name :: names

/-- The template of a render clause. -/
def toTemplate (node : Tree) : Except ShapeError (Option String) := do
  let target ←
    match node.find? Tag.pageRef with
    | some target => pure target
    | none =>
      match node.find? Tag.string with
      | some target => pure target
      | none => missing "PageRef or String" node
  return (← literal target).text?

/-- Reads a part of a query node from its first clause with a tag, if there is one. -/
def ofFirst {α : Type} (node : Tree) (tag : String) (read : Tree → Except ShapeError α) :
    Except ShapeError (Option α) :=
  match node.find? tag with
  | none => return none
  | some clause => return some (← read clause)

/-- The table that a query node names. -/
def toTable (node : Tree) : Except ShapeError String := do
  let tableNode ← childAt node 0 Tag.tableName
  let table ← leafText tableNode
  if table.isEmpty then throw (.emptyTableName tableNode.describe) else return table

end NoteQuery.Tree

namespace NoteQuery.Query

/-- The query of a normalized query node. -/
def ofNode (node : Tree) : Except ShapeError Query := do
  let table ← node.toTable
  let order ← node.ofFirst Tree.Tag.orderClause Tree.toOrder
  let limit ← node.ofFirst Tree.Tag.limitClause Tree.toLimit
  let filters ← Tree.toFilters (node.outermost Tree.Tag.filterExpr)
  let select ← node.ofFirst Tree.Tag.selectClause
    (fun clause => Tree.toNames (clause.outermost Tree.Tag.name))
  let render ← node.ofFirst Tree.Tag.renderClause Tree.toTemplate
  return {
    table, filters, limit, select
    orderBy := order.map (·.1)
    descending := (order.map (·.2)).getD false
    render := render.getD none }

/-- The query of a tree whose first child is the query node, whatever the tag of that node. -/
def ofTree (tree : Tree) : Except ShapeError Query :=
  match tree.normalize.children with
  | [] => tree.missing "query clause"
  | node :: _ => ofNode node

/-- The query that a text spells. -/
def ofText (text : String) : Except ParseError Query := do
  let tree ← Tree.ofSource text
  (ofTree tree).mapError ParseError.shape

end NoteQuery.Query
