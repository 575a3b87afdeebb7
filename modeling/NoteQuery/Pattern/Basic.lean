import NoteQuery.Pattern.CharSet

/-! # Patterns

The syntax tree of a pattern. Flags are resolved where a pattern is read, so the tree says by itself
what it matches.
-/

namespace NoteQuery

/-- A condition on a place in a text. -/
inductive Anchor where
  /-- The start of the text. -/
  | textStart
  /-- The end of the text. -/
  | textEnd
  /-- The start of a line; with `crlf` a carriage return ends lines too. -/
  | lineStart (crlf : Bool)
  /-- The end of a line. -/
  | lineEnd (crlf : Bool)
  /-- The edge of a word; here and below `ascii` counts ASCII word characters only. -/
  | wordEdge (ascii : Bool)
  | noWordEdge (ascii : Bool)
  | wordStart (ascii : Bool)
  | wordEnd (ascii : Bool)
  /-- Not behind a word character. -/
  | wordStartHalf (ascii : Bool)
  /-- Not before a word character. -/
  | wordEndHalf (ascii : Bool)
deriving DecidableEq, Repr, Inhabited

/-- A pattern. -/
inductive Pattern where
  /-- Matches the empty text. -/
  | empty
  /-- A setting of flags; matches the empty text and cannot be repeated. -/
  | setting
  /-- One character of a set, which was written with brackets inside each other to a depth. -/
  | one (set : CharSet) (depth : Nat)
  | anchor (a : Anchor)
  /-- At least `min` times, and at most `max` times if there is a limit. A greedy repetition prefers
  more rounds to fewer. -/
  | repetition (p : Pattern) (min : Nat) (max : Option Nat) (greedy : Bool)
  /-- A pattern in parentheses, which may say that what it matches is not to be remembered. -/
  | group (p : Pattern) (remembered : Bool)
  | sequence (ps : List Pattern)
  | choice (ps : List Pattern)
deriving Inhabited

namespace Pattern

/-- A sequence of patterns; of one pattern it is that pattern. -/
def ofSequence : List Pattern → Pattern
  | [] => empty
  | [p] => p
  | ps => sequence ps

/-- A choice between patterns; of one pattern it is that pattern. -/
def ofChoice : List Pattern → Pattern
  | [p] => p
  | ps => choice ps

/-- Whether the pattern is an operand that can be repeated. -/
def isRepeatable : Pattern → Bool
  | empty | setting => false
  | _ => true

mutual

/-- How deeply groups, repetitions, sequences, choices and brackets stand inside each other. -/
def depth : Pattern → Nat
  | empty | setting | anchor _ => 0
  | one _ depth => depth
  | repetition p _ _ _ => p.depth + 1
  | group p _ => p.depth + 1
  | sequence ps => depthAll ps + 1
  | choice ps => depthAll ps + 1

/-- Greatest depth of several patterns. -/
def depthAll : List Pattern → Nat
  | [] => 0
  | p :: ps => max p.depth (depthAll ps)

end

/-- Greatest depth of a pattern. -/
def maxDepth : Nat := 250

end Pattern

end NoteQuery
