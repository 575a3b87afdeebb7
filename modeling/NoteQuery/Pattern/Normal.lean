import NoteQuery.Pattern.Basic

/-! # Normal forms of patterns

The size of a pattern's automaton does not depend on how the pattern is spelled where two spellings
have one normal form. It joins characters that follow each other to a literal, joins single
characters or sets that are alternatives to one set, drops repetitions that cannot matter, and
writes what all alternatives begin with only once.
-/

namespace NoteQuery

/-- A pattern in normal form. -/
inductive NormalPattern where
  | empty
  /-- One or more characters in turn. -/
  | literal (cs : List Char)
  /-- One character of a set that does not have exactly one. -/
  | one (set : CharSet)
  | anchor (a : Anchor)
  | repetition (p : NormalPattern) (min : Nat) (max : Option Nat) (greedy : Bool)
  /-- A group that remembers what it matches. -/
  | group (p : NormalPattern)
  | sequence (ps : List NormalPattern)
  | choice (ps : List NormalPattern)
deriving Inhabited

namespace NormalPattern

/-! ## What a pattern consumes -/

mutual

/-- Whether all that a pattern matches is certain to be empty. -/
def isWeightless : NormalPattern → Bool
  | empty | anchor _ => true
  | literal _ | one _ => false
  | repetition p _ max _ => max.isSome && p.isWeightless
  | group p => p.isWeightless
  | sequence ps => areWeightless ps
  | choice ps => areWeightless ps

/-- Whether several patterns match nothing but the empty text. -/
def areWeightless : List NormalPattern → Bool
  | [] => true
  | p :: ps => p.isWeightless && areWeightless ps

end

mutual

/-- Whether every set that a match needs has a member. -/
def isPossible : NormalPattern → Bool
  | empty | anchor _ | literal _ => true
  | one set => !set.ranges.isEmpty
  | repetition p _ _ _ => p.isPossible
  | group p => p.isPossible
  | sequence ps => arePossible ps
  | choice ps => arePossible ps

/-- Whether several patterns are possible. -/
def arePossible : List NormalPattern → Bool
  | [] => true
  | p :: ps => p.isPossible && arePossible ps

end

mutual

/-- Whether a possible pattern is certain to match no empty text. -/
def isProper : NormalPattern → Bool
  | empty | anchor _ => false
  | literal _ => true
  | one set => !set.ranges.isEmpty
  | repetition p min _ _ => 0 < min && p.isProper
  | group p => p.isProper
  | sequence ps => arePossible ps && isAnyProper ps
  | choice ps => areProper ps

/-- Whether one of several patterns is proper. -/
def isAnyProper : List NormalPattern → Bool
  | [] => false
  | p :: ps => p.isProper || isAnyProper ps

/-- Whether all of several patterns are proper. -/
def areProper : List NormalPattern → Bool
  | [] => true
  | p :: ps => p.isProper && areProper ps

end

/-! ## Where a match starts and ends -/

mutual

/-- Whether every match starts where the text does, because an anchor says so. -/
def startsText : NormalPattern → Bool
  | anchor a => a == .textStart
  | empty | literal _ | one _ => false
  | repetition p min _ _ => 0 < min && p.startsText
  | group p => p.startsText
  | sequence ps => oneStartsText ps
  | choice ps => allStartText ps

/-- Whether one of the patterns up to the first that is not weightless starts the text. -/
def oneStartsText : List NormalPattern → Bool
  | [] => false
  | p :: ps => p.startsText || (p.isWeightless && oneStartsText ps)

/-- Whether all of several patterns start the text. -/
def allStartText : List NormalPattern → Bool
  | [] => true
  | p :: ps => p.startsText && allStartText ps

end

mutual

/-- Whether every match ends where the text does, because an anchor says so. -/
def endsText : NormalPattern → Bool
  | anchor a => a == .textEnd
  | empty | literal _ | one _ => false
  | repetition p min _ _ => 0 < min && p.endsText
  | group p => p.endsText
  | sequence ps => oneEndsText ps
  | choice ps => allEndText ps

/-- Whether one of the patterns from the last that is not weightless on ends the text. -/
def oneEndsText : List NormalPattern → Bool
  | [] => false
  | p :: ps => oneEndsText ps || (areWeightless ps && p.endsText)

/-- Whether all of several patterns end the text. -/
def allEndText : List NormalPattern → Bool
  | [] => true
  | p :: ps => p.endsText && allEndText ps

end

/-! ## Equal patterns -/

mutual

/-- Whether two patterns are the same; what groups remember tells them apart. -/
def isSame : NormalPattern → NormalPattern → Bool
  | empty, empty => true
  | literal a, literal b => a == b
  | one a, one b => a == b
  | anchor a, anchor b => a == b
  | repetition p min max greedy, repetition q min' max' greedy' =>
    min == min' && max == max' && greedy == greedy' && p.isSame q
  | sequence ps, sequence qs => areSame ps qs
  | choice ps, choice qs => areSame ps qs
  | _, _ => false

/-- Whether two lists hold the same patterns. -/
def areSame : List NormalPattern → List NormalPattern → Bool
  | [], [] => true
  | p :: ps, q :: qs => p.isSame q && areSame ps qs
  | _, _ => false

end

/-- Number of patterns at the front of two lists that are the same. -/
def sharedLength : List NormalPattern → List NormalPattern → Nat
  | p :: ps, q :: qs => if p.isSame q then sharedLength ps qs + 1 else 0
  | _, _ => 0

/-! ## Building normal forms -/

/-- One character of a set. -/
def ofSet (set : CharSet) : NormalPattern :=
  match set.ranges with
  | [⟨first, last⟩] => if first = last then literal [Char.ofNat first] else one set
  | _ => one set

/-- A repetition. Of a pattern that matches only the empty text one round is as good as more. -/
def repeated (p : NormalPattern) (min : Nat) (max : Option Nat) (greedy : Bool) : NormalPattern :=
  let (min, max) :=
    if p.isWeightless then (Nat.min min 1, some (Nat.min (max.getD 1) 1)) else (min, max)
  if max = some 0 then empty
  else if min = 1 ∧ max = some 1 then p
  else repetition p min max greedy

/-- Patterns of a sequence without sequences and empty patterns in it. -/
private def flatSequence (ps : List NormalPattern) : List NormalPattern :=
  ps.flatMap (fun p =>
    match p with
    | sequence qs => qs
    | empty => []
    | p => [p])

/-- Joins literals that follow each other. -/
private def joinLiterals : List NormalPattern → List NormalPattern
  | [] => []
  | p :: ps =>
    match p, joinLiterals ps with
    | literal a, literal b :: rest => literal (a ++ b) :: rest
    | p, rest => p :: rest

/-- A sequence. -/
def inSequence (ps : List NormalPattern) : NormalPattern :=
  match joinLiterals (flatSequence ps) with
  | [] => empty
  | [p] => p
  | ps => sequence ps

/-- Alternatives without choices in them. -/
private def flatChoice (ps : List NormalPattern) : List NormalPattern :=
  ps.flatMap (fun p =>
    match p with
    | choice qs => qs
    | p => [p])

/-- The set of a literal of one character. -/
private def characterOf? : NormalPattern → Option CharSet
  | literal [c] => some (.single c)
  | _ => none

/-- The set of a pattern that is one. -/
private def setOf? : NormalPattern → Option CharSet
  | one set => some set
  | _ => none

/-- A choice; single characters, or sets, are joined to one set. -/
private def joinedChoice (ps : List NormalPattern) : NormalPattern :=
  match flatChoice ps with
  | [p] => p
  | ps =>
    match ps.mapM characterOf? <|> ps.mapM setOf? with
    | some sets => ofSet (.unionAll sets)
    | none => choice ps

/-- The patterns of a sequence. -/
private def partsOf? : NormalPattern → Option (List NormalPattern)
  | sequence ps => some ps
  | _ => none

/-- A choice. If all alternatives are sequences that begin with the same patterns, the choice is
between what follows these patterns, which again have no common beginning. -/
def ofAlternatives (ps : List NormalPattern) : NormalPattern :=
  match joinedChoice ps with
  | choice ps =>
    match ps.mapM partsOf? with
    | some (first :: others) =>
      let shared := others.foldl (fun n parts => Nat.min n (sharedLength first parts)) first.length
      if shared = 0 then choice ps
      else
        let rests := (first :: others).map (fun parts => inSequence (parts.drop shared))
        inSequence (first.take shared ++ [joinedChoice rests])
    | _ => choice ps
  | p => p

end NormalPattern

namespace Pattern

mutual

/-- Normal form of a pattern. -/
def normal : Pattern → NormalPattern
  | empty | setting => .empty
  | one set _ => .ofSet set
  | anchor a => .anchor a
  | repetition p min max greedy => p.normal.repeated min max greedy
  | group p remembered => if remembered then .group p.normal else p.normal
  | sequence ps => .inSequence (normalAll ps)
  | choice ps => .ofAlternatives (normalAll ps)

/-- Normal forms of several patterns. -/
def normalAll : List Pattern → List NormalPattern
  | [] => []
  | p :: ps => p.normal :: normalAll ps

end

end Pattern

end NoteQuery
