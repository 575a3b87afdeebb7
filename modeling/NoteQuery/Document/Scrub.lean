import NoteQuery.Document.Basic
import NoteQuery.Tree.Basic

/-! # Scrubbing

Scrubbing puts spaces in the place of directives, as many as they have bytes, so that everything
else keeps its byte offset.
-/

namespace NoteQuery

open NoteQuery.Text

/-- As many spaces as a text has bytes. -/
def blanked (cs : List Char) : List Char := List.replicate (byteSize cs) ' '

/-- A piece with spaces in place of a directive. -/
def Piece.scrubbed : Piece → Piece
  | text cs => text cs
  | directive d => text (blanked d.toList)

/-- A text with spaces in place of its directives. -/
def scrubText (text : String) : String :=
  Document.toText ((Document.ofText text).map Piece.scrubbed)

namespace Tree

/-- A leaf of spaces at the place of a tree. -/
def blankLeaf (t : Tree) : Tree :=
  ⟨{ text := some (String.ofList (blanked t.render.toList)), start := t.start, stop := t.stop }, []⟩

/-- What becomes of a node when directives are scrubbed. -/
def scrubNode (t : Tree) : Replacement :=
  if t.hasTag Tag.directive then .replace t.blankLeaf else .keep t.label

/-- The tree with leaves of spaces in place of the directives below its root. -/
def scrubDirectives (t : Tree) : Tree := t.mapBelow scrubNode

end Tree

end NoteQuery
