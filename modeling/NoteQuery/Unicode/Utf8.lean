import NoteQuery.Number.Power
import NoteQuery.Unicode.CodeRange

/-! # Byte forms of code points

In UTF-8 the code points of a range are spelled by the byte sequences of a few forms. A form gives
for each place the bytes that may stand there, whatever stands at the others.
-/

namespace NoteQuery.Unicode

/-- Bytes from `first` to `last`. -/
structure ByteRange where
  first : Nat
  last : Nat
deriving DecidableEq, Inhabited, Repr

/-- A byte for each place of a sequence. -/
abbrev ByteForm := List ByteRange

/-- Forms of the numbers from `first` to `last`: a byte, which `mark` is added to, and `more` bytes
of six bits each behind it. A number's block is what the first byte says of it. If the range goes
beyond one block, a block at either end that it holds only in part has forms of its own. -/
private def formsBehind (mark : Nat) : (more first last : Nat) → List ByteForm
  | 0, first, last => [[⟨mark + first, mark + last⟩]]
  | more + 1, first, last =>
    let size := twoTo (6 * (more + 1))
    let within (low high start stop : Nat) : List ByteForm :=
      (formsBehind 0x80 more start stop).map (⟨mark + low, mark + high⟩ :: ·)
    let low := first / size
    let high := last / size
    if low = high then within low high (first % size) (last % size)
    else
      let head := if first % size = 0 then [] else within low low (first % size) (size - 1)
      let tail := if last % size = size - 1 then [] else within high high 0 (last % size)
      let low := if head.isEmpty then low else low + 1
      let behind := if tail.isEmpty then high + 1 else high
      let whole := if low < behind then within low (behind - 1) 0 (size - 1) else []
      head ++ whole ++ tail

/-- Numbers of bytes with the code points that need so many, and the mark of the first byte. -/
private def byteLengths : List (Nat × CodeRange × Nat) :=
  [(0, ⟨0, 0x7f⟩, 0), (1, ⟨0x80, 0x7ff⟩, 0xc0), (2, ⟨0x800, 0xffff⟩, 0xe0),
   (3, ⟨0x10000, 0x10ffff⟩, 0xf0)]

/-- Byte forms of the code points of a range that holds no surrogate, in their order. -/
def CodeRange.byteForms (r : CodeRange) : List ByteForm :=
  byteLengths.flatMap (fun (more, all, mark) =>
    let first := Nat.max r.first all.first
    let last := Nat.min r.last all.last
    if first ≤ last then formsBehind mark more first last else [])

end NoteQuery.Unicode
