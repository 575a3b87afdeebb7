/-! # Powers

Powers of the two bases that numbers are written in. They are spelled with `Nat.pow`, which means
the same whatever instances are around.
-/

namespace NoteQuery

/-- The `n`-th power of two. -/
abbrev twoTo (n : Nat) : Nat := Nat.pow 2 n

/-- The `n`-th power of ten. -/
abbrev tenTo (n : Nat) : Nat := Nat.pow 10 n

end NoteQuery
