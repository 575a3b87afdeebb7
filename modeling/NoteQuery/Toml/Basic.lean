import NoteQuery.Entries
import NoteQuery.Number.Binary64

/-! # TOML documents

A document is a tree of named nodes. Tables remember how they came about, because that decides which
later lines may add to them: a table under a header may not be given a second header, one that
dotted keys made may not be given a header at all, and a table written in braces is closed.
-/

namespace NoteQuery.Toml

/-- How a table came about. -/
inductive Origin where
  /-- Written in braces. -/
  | braces
  /-- Under a header of its own. -/
  | header
  /-- On the way to a table with a header. -/
  | implied
  /-- On the way to a dotted key. -/
  | dotted
deriving DecidableEq, Repr

/-- A node of a document. -/
inductive Node where
  | string (s : String)
  | integer (n : Int)
  | float (x : Binary64)
  | bool (b : Bool)
  | dateTime (text : String)
  | array (items : List Node)
  | table (origin : Origin) (entries : List (String × Node))
  /-- Tables under a header in double brackets, last one first. -/
  | tables (last : List (String × Node)) (others : List (List (String × Node)))
deriving Inhabited

/-- The members of a table, in order. -/
abbrev Table := List (String × Node)

/-- A line of a document, or of a table in braces. -/
inductive Line where
  /-- A table's header. -/
  | header (path : List String)
  /-- A header in double brackets, which starts another table with its name. -/
  | arrayHeader (path : List String)
  /-- A value under a key, which may be dotted. -/
  | assignment (path : List String) (key : String) (value : Node)

/-! ## Building tables -/

/-- Changes what a path of names leads to, from table to table. Missing tables are made with
`origin`; of several tables with one name the last is meant. -/
def changeAt (origin : Origin) (enter : Origin → Bool) (change : Table → Option Table) :
    List String → Table → Option Table
  | [], table => change table
  | name :: path, table =>
    match Entries.find? name table with
    | none => do
      let inner ← changeAt origin enter change path []
      return Entries.put name (.table origin inner) table
    | some (.table found inner) =>
      if enter found then do
        let inner ← changeAt origin enter change path inner
        return Entries.put name (.table found inner) table
      else none
    | some (.tables last others) => do
      let last ← changeAt origin enter change path last
      return Entries.put name (.tables last others) table
    | some _ => none

/-- Headers lead through every table that is not closed. -/
def headerEnters (origin : Origin) : Bool := origin != .braces

/-- Gives a table its header. -/
def openTable (name : String) (table : Table) : Option Table :=
  match Entries.find? name table with
  | none => some (Entries.put name (.table .header []) table)
  | some (.table .implied inner) => some (Entries.put name (.table .header inner) table)
  | some _ => none

/-- Starts another table with a name. -/
def openAnother (name : String) (table : Table) : Option Table :=
  match Entries.find? name table with
  | none => some (Entries.put name (.tables [] []) table)
  | some (.tables last others) => some (Entries.put name (.tables [] (last :: others)) table)
  | some _ => none

/-- Dotted keys lead through tables without a header of their own. -/
def keyEnters (origin : Origin) : Bool := origin == .dotted || origin == .implied

/-- Puts a value under a dotted key. The table that holds it must have been made by dotted keys,
unless the key has one part only. -/
def assign (key : String) (value : Node) (path : List String) (table : Table) : Option Table :=
  let add (table : Table) : Option Table :=
    if (Entries.find? key table).isSome then none else some (Entries.put key value table)
  match path.getLast? with
  | none => add table
  | some name =>
    changeAt .dotted keyEnters (fun parent =>
      match Entries.find? name parent with
      | none => do return Entries.put name (.table .dotted (← add [])) parent
      | some (.table .dotted inner) => do
        return Entries.put name (.table .dotted (← add inner)) parent
      | some _ => none) path.dropLast table

/-- Adds the lines of a document to its root; `current` is the path of the last header. -/
def addLines : (current : List String) → Table → List Line → Option Table
  | _, root, [] => some root
  | current, root, .assignment path key value :: lines => do
    let root ← changeAt .header headerEnters (assign key value path) current root
    addLines current root lines
  | _, root, .header path :: lines => do
    let name ← path.getLast?
    let root ← changeAt .implied headerEnters (openTable name) path.dropLast root
    addLines path root lines
  | _, root, .arrayHeader path :: lines => do
    let name ← path.getLast?
    let root ← changeAt .implied headerEnters (openAnother name) path.dropLast root
    addLines path root lines

/-- The root table of a document, or the table in braces with the given lines. -/
def tableOf (lines : List Line) : Option Table := addLines [] [] lines

end NoteQuery.Toml
