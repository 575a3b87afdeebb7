import NoteQuery.Pattern.Basic

/-! # Searching a text for a pattern

A search keeps the set of all places that some way of matching has reached, so its time does not
depend on how many ways there are. A set of places is a number: bit `i` stands for the place before
the character at index `i`, and the highest place is the end of the text. A pattern is first laid
over the text, which replaces its sets and anchors by the places where they hold.
-/

namespace NoteQuery

open NoteQuery.Unicode

/-- A set of places in a text. -/
abbrev Places := Nat

namespace Places

/-- The places below `count` that satisfy a test. -/
def filter (count : Nat) (test : Nat → Bool) : Places :=
  (List.range count).foldl (fun places i => if test i then places ||| 1 <<< i else places) 0

/-- The first `count` places. -/
def all (count : Nat) : Places := 1 <<< count - 1

/-- Advances a number of times, or until nothing changes any more. -/
def iterate (advance : Places → Places) : (rounds : Nat) → Places → Places
  | 0, places => places
  | rounds + 1, places =>
    let next := advance places
    if next = places then places else iterate advance rounds next

/-- Adds what one round of `advance` reaches, for a number of rounds or until nothing is added. -/
def close (advance : Places → Places) : (rounds : Nat) → Places → Places
  | 0, places => places
  | rounds + 1, places =>
    let more := places ||| advance places
    if more = places then places else close advance rounds more

end Places

/-! ## Anchors -/

namespace Anchor

/-- Whether a character counts for word anchors. -/
private def isWordCharacter (ascii : Bool) (c : Char) : Bool :=
  if ascii then c.isAlphanum || c == '_' else isWord c

/-- Whether an anchor holds between two neighbours, of which there is none at an end of the text. -/
def holds (a : Anchor) (before after : Option Char) : Bool :=
  let wordBefore (ascii : Bool) := before.any (isWordCharacter ascii)
  let wordAfter (ascii : Bool) := after.any (isWordCharacter ascii)
  match a with
  | textStart => before.isNone
  | textEnd => after.isNone
  | lineStart false => before.isNone || before == some '\n'
  | lineStart true =>
    before.isNone || before == some '\n' || (before == some '\r' && after != some '\n')
  | lineEnd false => after.isNone || after == some '\n'
  | lineEnd true =>
    after.isNone || after == some '\r' || (after == some '\n' && before != some '\r')
  | wordEdge ascii => wordBefore ascii != wordAfter ascii
  | noWordEdge ascii => wordBefore ascii == wordAfter ascii
  | wordStart ascii => !wordBefore ascii && wordAfter ascii
  | wordEnd ascii => wordBefore ascii && !wordAfter ascii
  | wordStartHalf ascii => !wordBefore ascii
  | wordEndHalf ascii => !wordAfter ascii

/-- Whether an anchor holds at a place in a text. -/
def holdsAt (a : Anchor) (text : Array Char) (place : Nat) : Bool :=
  a.holds (if place = 0 then none else text[place - 1]?) text[place]?

end Anchor

/-! ## Patterns laid over a text -/

/-- A pattern laid over a text. -/
inductive Motion where
  /-- Stays at its place. -/
  | stay
  /-- Moves on by one character from these places. -/
  | step (places : Places)
  /-- Stays, if at one of these places. -/
  | check (places : Places)
  /-- Moves `min` times, and then up to `more` times. -/
  | repetition (m : Motion) (min more : Nat)
  | sequence (ms : List Motion)
  | choice (ms : List Motion)
deriving Inhabited

mutual

/-- Lays a pattern over a text. More rounds of a repetition than the text has places lead to no
further place, so a repetition without limit makes that many. -/
def Pattern.over (text : Array Char) : Pattern → Motion
  | .empty | .setting => .stay
  | .one set _ =>
    .step (Places.filter text.size (fun i => (text[i]?).any (fun c => set.contains c.toNat)))
  | .anchor a => .check (Places.filter (text.size + 1) (fun i => a.holdsAt text i))
  | .repetition p min none _ => .repetition (p.over text) min (text.size + 1)
  | .repetition p min (some max) _ => .repetition (p.over text) min (max - min)
  | .group p _ => p.over text
  | .sequence ps => .sequence (Pattern.overAll text ps)
  | .choice ps => .choice (Pattern.overAll text ps)

/-- Lays several patterns over a text. -/
def Pattern.overAll (text : Array Char) : List Pattern → List Motion
  | [] => []
  | p :: ps => p.over text :: Pattern.overAll text ps

end

namespace Motion

mutual

/-- The places that a motion leads to from some places. -/
def reach : Motion → Places → Places
  | stay, places => places
  | step allowed, places => (places &&& allowed) <<< 1
  | check allowed, places => places &&& allowed
  | repetition m min more, places => Places.close m.reach more (Places.iterate m.reach min places)
  | sequence ms, places => reachInTurn ms places
  | choice ms, places => reachByAny ms places

/-- The places that motions lead to, one after the other. -/
def reachInTurn : List Motion → Places → Places
  | [], places => places
  | m :: ms, places => reachInTurn ms (m.reach places)

/-- The places that at least one motion leads to. -/
def reachByAny : List Motion → Places → Places
  | [], _ => 0
  | m :: ms, places => m.reach places ||| reachByAny ms places

end

end Motion

namespace Pattern

/-- Whether a pattern matches some part of a text. -/
def occursIn (p : Pattern) (text : String) : Bool :=
  let chars := text.toList.toArray
  (p.over chars).reach (Places.all (chars.size + 1)) != 0

end Pattern

end NoteQuery
