import NoteQuery.Pattern.Normal
import NoteQuery.Unicode.Utf8
import Std.Data.HashMap

/-! # Size of a pattern's automaton

A pattern is too large when one of its two automata over bytes takes more than `maxBytes`: the one
that reads a text forwards and remembers what groups match, and the one that reads it backwards and
does not. The automata are not built here. Laying one out counts its states, which are numbered from
nought, and the room that their edges take.

A state has room for one edge. A state for ranges of bytes keeps its edges apart, and so does a
branch, whose edges go to other states without reading a byte. A part of an automaton has one exit,
and what follows it is linked to that exit; if the exit is a branch, this adds an edge to it.
-/

namespace NoteQuery

open NoteQuery.Unicode

namespace Automaton

/-! ## Room -/

/-- Bytes that a state takes. -/
def stateBytes : Nat := 32

/-- Bytes that an edge for a range of bytes takes. -/
def rangeBytes : Nat := 8

/-- Bytes that an edge of a branch takes. -/
def branchBytes : Nat := 4

/-- Most bytes that an automaton may take, ten mebibytes. -/
def maxBytes : Nat := 10485760

/-- What has been laid out of an automaton. -/
structure Draft where
  states : Nat
  /-- Bytes of the edges that are kept apart from the states. -/
  edgeBytes : Nat
deriving DecidableEq, Repr

/-- A part of an automaton being laid out, which fails when there is no room left. -/
abbrev Layout := StateT Draft Option

/-- Takes room for states and for edges kept apart. -/
def takeRoom (states edgeBytes : Nat) : Layout Unit := fun draft =>
  let draft := ⟨draft.states + states, draft.edgeBytes + edgeBytes⟩
  if stateBytes * draft.states + draft.edgeBytes ≤ maxBytes then some ((), draft) else none

/-- Adds a state and gives its number. -/
def addState (edgeBytes : Nat) : Layout Nat := fun draft =>
  (takeRoom 1 edgeBytes draft).map (fun (_, next) => (draft.states, next))

/-- Kind of the exit of a part. -/
inductive Exit where
  | plain
  | branch
deriving DecidableEq, Repr, Inhabited

/-- Links an exit to what follows it. -/
def link : Exit → Layout Unit
  | .plain => pure ()
  | .branch => takeRoom 0 branchBytes

/-- Lays a part out a number of times, each behind the one before. -/
def layCopies (part : Layout Exit) : (copies : Nat) → Exit → Draft → Option (Exit × Draft)
  | 0, exit, draft => some (exit, draft)
  | copies + 1, exit, draft =>
    match part draft with
    | none => none
    | some (next, draft) =>
      match link exit draft with
      | none => none
      | some (_, draft) => layCopies part copies next draft

/-- Lays a part out exactly a number of times. -/
def layExactly (part : Layout Exit) : (copies : Nat) → Layout Exit
  | 0 => do
    let _ ← addState 0
    return .plain
  | copies + 1 => do layCopies part copies (← part)

/-- Lays out a branch that leads into a part or past it. -/
def layOptional (part : Layout Exit) : Layout Exit := do
  let _ ← addState (2 * branchBytes)
  part

/-- Lays a part out at least a number of times, with a branch that leads back into it. -/
def layAtLeast (part : Layout Exit) (proper : Bool) : (least : Nat) → Layout Exit
  | 0 => do
    if proper then
      let _ ← addState branchBytes
      link (← part)
      return .branch
    else
      link (← part)
      takeRoom 3 (4 * branchBytes)
      return .plain
  | 1 => do
    link (← part)
    let _ ← addState branchBytes
    return .branch
  | least + 2 => do
    let exit ← layExactly part (least + 1)
    link (← part)
    link exit
    let _ ← addState branchBytes
    return .branch

/-- Lays a part out between a least and a greatest number of times. -/
def layBetween (part : Layout Exit) (least greatest : Nat) : Layout Exit := do
  if least = 0 ∧ greatest = 1 then
    link (← layOptional part)
    let _ ← addState 0
    return .plain
  else
    let exit ← layExactly part least
    if least = greatest then return exit
    else
      let _ ← addState 0
      link (← layCopies (layOptional part) (greatest - least) exit)
      return .plain

/-! ## Sets

States that lead to the same places are shared. They are looked up by a hash in a table with a
limited number of places, where a new state takes the place of an older one, so not every pair of
such states is shared. -/

/-- Hash of some numbers. -/
def hashOf (numbers : List Nat) : UInt64 :=
  numbers.foldl (fun hash n => (hash ^^^ n.toUInt64) * 1099511628211) 14695981039346656037

/-- States by their places in the table, each with the numbers that describe it. -/
abbrev Known := Std.HashMap UInt64 (List Nat × Nat)

/-- The state that some numbers describe; it is added unless the table has it. -/
def sharedState (places : UInt64) (description : List Nat) (edgeBytes : Nat) :
    StateT Known Layout Nat := do
  let place := hashOf description % places
  match (← get)[place]? with
  | some (known, state) =>
    if known = description then return state else add place
  | none => add place
where
  add (place : UInt64) : StateT Known Layout Nat := do
    let state ← addState edgeBytes
    modify (fun known => known.insert place (description, state))
    return state

/-- Lays out byte forms of at most `length` places, given in their order, in front of `target`, and
gives the first state. Forms that share their beginning share its states, and so do equal ends. -/
def layForms (target : Nat) : (length : Nat) → List ByteForm → StateT Known Layout Nat
  | 0, _ => return target
  | length + 1, forms => do
    if forms.all List.isEmpty then return target
    let groups := forms.splitBy (fun a b => a.head? == b.head?)
    let edges ← groups.mapM (fun group => do
      let behind ← layForms target length (group.map List.tail)
      match group.flatMap (List.take 1) with
      | [] => return []
      | range :: _ => return [range.first, range.last, behind])
    sharedState 10000 edges.flatten (edges.length * rangeBytes)

/-- Lays out a byte form backwards in front of `target`, and gives the first state. -/
def layBackwards (target : Nat) (form : ByteForm) : StateT Known Layout Nat :=
  form.foldlM (fun behind range => sharedState 1000 [behind, range.first, range.last] 0) target

/-- Lays out a set of characters. -/
def laySet (backwards : Bool) (set : CharSet) : Layout Exit := do
  if set.ranges.all (fun r => r.last < 0x80) then
    takeRoom 2 (set.ranges.length * rangeBytes)
    return .plain
  let forms := set.ranges.flatMap CodeRange.byteForms
  if backwards then
    let _ ← addState 0
    let target ← addState 0
    let layAll : StateT Known Layout Unit := forms.forM (fun form => do
      let _ ← layBackwards target form
      takeRoom 0 branchBytes)
    let _ ← layAll.run ∅
    return .plain
  else
    let target ← addState 0
    let _ ← (layForms target 4 forms).run ∅
    return .plain

/-! ## Words

A choice between literals is laid out as a tree of their bytes. -/

/-- A tree of words. A node has sections, the last one first: what is added behind a word that ends
at a node comes into a new section. In a section the bytes stand in order. -/
inductive WordTree where
  | node (sections : List (List (Nat × WordTree)))
deriving Inhabited

namespace WordTree

/-- The tree without words. -/
def empty : WordTree := node [[]]

/-- Whether no word goes on behind a node. -/
def isLeaf : WordTree → Bool
  | node sections => sections.all List.isEmpty

/-- Changes what stands behind a byte in a section. -/
private def behind (byte : Nat) (change : WordTree → WordTree) :
    List (Nat × WordTree) → List (Nat × WordTree)
  | [] => [(byte, change empty)]
  | (b, tree) :: rest =>
    if byte = b then (b, change tree) :: rest
    else if byte < b then (byte, change empty) :: (b, tree) :: rest
    else (b, tree) :: behind byte change rest

/-- Adds a word. -/
def insert : List Nat → WordTree → WordTree
  | [], node sections =>
    if 1 < sections.length && sections.all List.isEmpty then node sections
    else node ([] :: sections)
  | byte :: word, node (latest :: sections) => node (behind byte (insert word) latest :: sections)
  | byte :: word, node [] => node [behind byte (insert word) []]

mutual

/-- Lays out a node that is no leaf: a branch to its sections and, between them, to the end. -/
def lay : WordTree → Layout Unit
  | node sections => do
    let filled ← laySections sections
    let _ ← addState ((filled + sections.length - 1) * branchBytes)

/-- Lays out sections, and gives the number of those that are not empty. -/
def laySections : List (List (Nat × WordTree)) → Layout Nat
  | [] => return 0
  | latest :: sections => do
    let filled ← laySections sections
    layChildren latest
    if latest.isEmpty then return filled
    let _ ← addState (if latest.length = 1 then 0 else latest.length * rangeBytes)
    return filled + 1

/-- Lays out what stands behind the bytes of a section. -/
def layChildren : List (Nat × WordTree) → Layout Unit
  | [] => return ()
  | (_, tree) :: rest => do
    if tree.isLeaf then pure () else tree.lay
    layChildren rest

end

end WordTree

/-- The bytes of characters. -/
private def bytesOf (cs : List Char) : List Nat :=
  cs.flatMap (fun c => (String.utf8EncodeChar c).map UInt8.toNat)

/-- Lays out a choice between words. -/
private def layWords (backwards : Bool) (words : List (List Char)) : Layout Exit := do
  let tree := words.foldl (fun tree word =>
    let bytes := bytesOf word
    tree.insert (if backwards then bytes.reverse else bytes)) WordTree.empty
  let _ ← addState 0
  tree.lay
  return .plain

end Automaton

/-! ## Patterns -/

namespace NormalPattern

open Automaton

/-- The characters of a literal. -/
private def literal? : NormalPattern → Option (List Char)
  | literal cs => some cs
  | _ => none

mutual

/-- Lays out a pattern. -/
def lay (backwards : Bool) : NormalPattern → Layout Exit
  | empty | anchor _ => do
    let _ ← addState 0
    return .plain
  | literal cs => do
    takeRoom (Text.byteSize cs) 0
    return .plain
  | one set => laySet backwards set
  | repetition p min max _ =>
    let part := p.lay backwards
    match max with
    | none => layAtLeast part p.isProper min
    | some max => layBetween part min max
  | group p => do
    if backwards then p.lay backwards
    else
      let _ ← addState 0
      link (← p.lay backwards)
      let _ ← addState 0
      return .plain
  | sequence ps => do
    if backwards then return (← laySequenceBackwards ps).getD .plain
    else laySequence .plain ps
  | choice ps => do
    match ps.mapM literal? with
    | some words => layWords backwards words
    | none =>
      layAlternatives backwards 0 ps
      return .plain

/-- Lays out patterns one behind the other, behind an exit. -/
def laySequence (exit : Exit) : List NormalPattern → Layout Exit
  | [] => return exit
  | p :: ps => do
    let next ← p.lay false
    link exit
    laySequence next ps

/-- Lays out patterns one in front of the other. -/
def laySequenceBackwards : List NormalPattern → Layout (Option Exit)
  | [] => return none
  | p :: ps => do
    let exit ← laySequenceBackwards ps
    let next ← p.lay true
    link (exit.getD .plain)
    return some next

/-- Lays out alternatives behind a number of others. The branch to them and their common end follow
the second one. -/
def layAlternatives (backwards : Bool) (others : Nat) : List NormalPattern → Layout Unit
  | [] => return ()
  | p :: ps => do
    let exit ← p.lay backwards
    if others = 1 then takeRoom 2 0
    takeRoom 0 branchBytes
    link exit
    layAlternatives backwards (others + 1) ps

end

/-- Lays out the automaton of a pattern: what skips the text in front of a match unless matches
begin at an end of the text, then the pattern, which remembers the whole match, and a last state. -/
def layAutomaton (backwards : Bool) (p : NormalPattern) : Layout Unit := do
  if if backwards then p.endsText else p.startsText then takeRoom 1 0
  else takeRoom 3 (2 * branchBytes + rangeBytes)
  link (← lay backwards (if backwards then p else group p))
  let _ ← addState 0

/-- Whether both automata of a pattern have room. -/
def hasRoom (p : NormalPattern) : Bool :=
  let fits (backwards : Bool) := ((p.layAutomaton backwards).run ⟨0, 0⟩).isSome
  fits true && fits false

end NormalPattern

/-- Whether a pattern is small enough to be searched for. -/
def Pattern.isAdmissible (p : Pattern) : Bool := p.depth ≤ maxDepth && p.normal.hasRoom

end NoteQuery
