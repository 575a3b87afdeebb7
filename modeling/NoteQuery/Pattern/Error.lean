/-! # Refused patterns

A filter's pattern is refused when it is too long, before it is read, or when it is no pattern.
-/

namespace NoteQuery

/-- Longest pattern that filters accept, in bytes. -/
def maxPatternBytes : Nat := 1000

/-- Why a pattern is refused. -/
inductive PatternError where
  /-- It has more than `maxPatternBytes` bytes. -/
  | tooLong
  /-- It is not in the pattern language, or too large to run. -/
  | malformed
deriving DecidableEq, Repr

/-- Wording of a refusal, if there is more to say than that the pattern is refused. -/
def PatternError.message? : PatternError → Option String
  | tooLong => some ("Pattern too long (max " ++ toString maxPatternBytes ++ " chars)")
  | malformed => none

end NoteQuery
