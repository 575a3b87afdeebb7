import NoteQuery.Document.Basic

/-! # Places of directives

Where the directives of a document stand, in byte offsets. The offset of a piece is the size of the
pieces before it.
-/

namespace NoteQuery

open NoteQuery.Text

/-- Bytes from `start` up to `stop`, which is not included. -/
structure ByteRange where
  start : Nat
  stop : Nat
deriving DecidableEq, Repr, Inhabited

/-- A directive at its place. -/
structure PlacedDirective where
  directive : Directive
  /-- Byte offset of the start marker. -/
  offset : Nat
deriving DecidableEq, Inhabited

namespace PlacedDirective

/-- Bytes of the start marker. -/
def startMarker (d : PlacedDirective) : ByteRange :=
  ⟨d.offset, d.offset + byteSize d.directive.startMarker⟩

/-- Bytes of the body. -/
def body (d : PlacedDirective) : ByteRange :=
  ⟨d.startMarker.stop, d.startMarker.stop + byteSize d.directive.body⟩

/-- Bytes of the end marker. -/
def endMarker (d : PlacedDirective) : ByteRange :=
  ⟨d.body.stop, d.body.stop + byteSize d.directive.endMarker⟩

/-- Bytes of the directive. -/
def span (d : PlacedDirective) : ByteRange := ⟨d.startMarker.start, d.endMarker.stop⟩

end PlacedDirective

namespace Document

/-- The directives of a document that starts at a byte offset. -/
def placedFrom (offset : Nat) : Document → List PlacedDirective
  | [] => []
  | .text cs :: pieces => placedFrom (offset + byteSize cs) pieces
  | .directive d :: pieces => ⟨d, offset⟩ :: placedFrom (offset + byteSize d.toList) pieces

/-- The directives of a document at their places. -/
def placed (document : Document) : List PlacedDirective := placedFrom 0 document

end Document

end NoteQuery
