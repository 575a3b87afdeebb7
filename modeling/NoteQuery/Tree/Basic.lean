/-! # Syntax trees

A tree of nodes that carry a tag, a text, and the byte offsets they span, each of them optional.
Nodes with a tag group their children; nodes without one hold the text of the source. The same
trees describe a query, a part of one, or a whole document that a host has read.
-/

namespace NoteQuery

/-- What a node carries besides its children. -/
structure Label where
  /-- Kind of the node; source text has none. -/
  tag : Option String := none
  text : Option String := none
  /-- Byte offset where the node starts. -/
  start : Option Nat := none
  /-- Byte offset behind the node. -/
  stop : Option Nat := none
deriving DecidableEq, Inhabited

/-- A node with its children. -/
structure Tree where
  label : Label
  children : List Tree
deriving Inhabited

namespace Tree

/-! ## Tags of queries and documents -/

namespace Tag

def program : String := "Program"
def query : String := "Query"
def tableName : String := "TableName"
def filterExpr : String := "FilterExpr"
def orderClause : String := "OrderClause"
def orderDirection : String := "OrderDirection"
def limitClause : String := "LimitClause"
def selectClause : String := "SelectClause"
def renderClause : String := "RenderClause"
def name : String := "Name"
def value : String := "Value"
def number : String := "Number"
def string : String := "String"
def bool : String := "Bool"
def null : String := "Null"
def regex : String := "Regex"
def pageRef : String := "PageRef"
def list : String := "List"
def directive : String := "Directive"

end Tag

/-! ## Nodes -/

/-- Tag of the root. -/
def tag (t : Tree) : Option String := t.label.tag

/-- Text of the root. -/
def text (t : Tree) : Option String := t.label.text

/-- Byte offset where the root starts. -/
def start (t : Tree) : Option Nat := t.label.start

/-- Byte offset behind the root. -/
def stop (t : Tree) : Option Nat := t.label.stop

/-- Whether the root has a tag. -/
def hasTag (tag : String) (t : Tree) : Bool := t.tag == some tag

/-- A piece of source text at its place. -/
def leaf (text : String) (start stop : Nat) : Tree :=
  ⟨{ text := some text, start := some start, stop := some stop }, []⟩

/-- A tagged node that spans its children. -/
def spanning (tag : String) (children : List Tree) : Tree :=
  ⟨{ tag := some tag
     start := children.head?.bind Tree.start
     stop := children.getLast?.bind Tree.stop }, children⟩

/-- A node in words: its tag, and its place if both offsets are known. -/
def describe (t : Tree) : String :=
  let name := t.tag.getD "text"
  match t.start, t.stop with
  | some start, some stop => name ++ " at " ++ toString start ++ ".." ++ toString stop
  | _, _ => name

/-! ## Rendering -/

mutual

/-- Text of a tree: the root's own text if it has one, else the texts of its children. -/
def render : Tree → String
  | ⟨label, children⟩ =>
    match label.text with
    | some text => text
    | none => renderAll children

/-- Texts of trees, one after the other. -/
def renderAll : List Tree → String
  | [] => ""
  | t :: ts => render t ++ renderAll ts

end

theorem render_of_text {t : Tree} {text : String} (ht : t.text = some text) : t.render = text := by
  obtain ⟨label, children⟩ := t
  rw [render, show label.text = some text from ht]

theorem render_of_not_text {t : Tree} (ht : t.text = none) : t.render = renderAll t.children := by
  obtain ⟨label, children⟩ := t
  rw [render, show label.text = none from ht]

/-! ## Searching

A walk visits a tree before its children and these from left to right. Its agenda holds the trees
that are still to be visited. -/

mutual

/-- Number of nodes. -/
def size : Tree → Nat
  | ⟨_, children⟩ => 1 + sizeAll children

/-- Number of nodes of several trees. -/
def sizeAll : List Tree → Nat
  | [] => 0
  | t :: ts => size t + sizeAll ts

end

theorem sizeAll_append (ts us : List Tree) : sizeAll (ts ++ us) = sizeAll ts + sizeAll us := by
  induction ts with
  | nil => simp [sizeAll]
  | cons t ts ih => simp [sizeAll, ih, Nat.add_assoc]

/-- The trees that an agenda leads to, in the order of their visits. -/
def walk (agenda : List Tree) : List Tree :=
  match agenda with
  | [] => []
  | t :: rest => t :: walk (t.children ++ rest)
termination_by sizeAll agenda
decreasing_by
  obtain ⟨label, children⟩ := t
  simp [sizeAll_append, sizeAll, size]

/-- A tree and everything below it, in the order of visits. -/
def nodes (t : Tree) : List Tree := walk [t]

/-- The first node with a tag in the order of visits, the root included. -/
def find? (tag : String) (t : Tree) : Option Tree :=
  t.nodes.find? (hasTag tag)

mutual

/-- The outermost nodes with a tag, from left to right. What lies below such a node is not looked
at. -/
def outermost (tag : String) : Tree → List Tree
  | ⟨label, children⟩ =>
    if hasTag tag ⟨label, children⟩ then [⟨label, children⟩] else outermostAll tag children

/-- The outermost nodes with a tag in several trees. -/
def outermostAll (tag : String) : List Tree → List Tree
  | [] => []
  | t :: ts => outermost tag t ++ outermostAll tag ts

end

/-! ## Rebuilding -/

/-- What becomes of a visited node. -/
inductive Replacement where
  /-- It stays, with this label, and its children are visited. -/
  | keep (label : Label)
  | remove
  /-- Another tree takes its place and is not visited. -/
  | replace (other : Tree)

section

variable {σ : Type} (visit : Tree → σ → Replacement × σ)

mutual

/-- What takes the place of a visited tree: itself rebuilt, nothing, or another tree. -/
def rebuilt : Tree → σ → List Tree × σ
  | ⟨label, children⟩, s =>
    match visit ⟨label, children⟩ s with
    | (.keep label, s) =>
      let (children, s) := rebuiltAll children s
      ([⟨label, children⟩], s)
    | (.remove, s) => ([], s)
    | (.replace other, s) => ([other], s)

/-- What takes the place of several trees. -/
def rebuiltAll : List Tree → σ → List Tree × σ
  | [], s => ([], s)
  | t :: ts, s =>
    let (first, s) := rebuilt t s
    let (rest, s) := rebuiltAll ts s
    (first ++ rest, s)

end

/-- Visits everything below the root, parents before children and from left to right, and keeps,
removes or replaces each node. The visits hand on a state. -/
def rebuild (t : Tree) (s : σ) : Tree × σ :=
  let (children, s) := rebuiltAll visit t.children s
  (⟨t.label, children⟩, s)

end

/-- Rebuilding by visits that need no state. -/
def mapBelow (visit : Tree → Replacement) (t : Tree) : Tree :=
  (t.rebuild (fun node (_ : Unit) => (visit node, ())) ()).1

end Tree

end NoteQuery
