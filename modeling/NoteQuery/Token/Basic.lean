/-! # Tokens

A token keeps the text that it was read from, delimiters included, and the byte offset where that
text starts. Decoding a literal is left to the syntax tree.
-/

namespace NoteQuery

/-- Kind of a token. -/
inductive TokenKind where
  /-- A bare name; keywords are told apart by the grammar. -/
  | identifier
  | number
  /-- A text in double or single quotes. -/
  | string
  /-- A pattern between slashes. -/
  | regex
  /-- A page name in double brackets. -/
  | pageRef
  /-- One of `=`, `!=`, `<`, `<=`, `>`, `>=`, `=~`, `!=~`. -/
  | operator
  | leftBracket
  | rightBracket
  | comma
  /-- A run of white space. -/
  | blank
  /-- The end of the text. -/
  | endOfText
deriving DecidableEq, Repr, Inhabited

/-- A token at its place in a text. -/
structure Token where
  kind : TokenKind
  /-- The text that the token was read from. -/
  text : String
  /-- Byte offset of its first character. -/
  start : Nat
deriving DecidableEq, Repr, Inhabited

namespace Token

/-- Byte offset behind the token. -/
def stop (t : Token) : Nat := t.start + t.text.utf8ByteSize

/-- Whether the token is the identifier `word`. -/
def isWord (t : Token) (word : String) : Bool := t.kind == .identifier && t.text == word

end Token

end NoteQuery
