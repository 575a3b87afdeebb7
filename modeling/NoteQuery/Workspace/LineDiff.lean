import NoteQuery.Text.Basic

/-! # Line differences

Two texts are compared line by line. The lines that stay are found by meeting in the middle: two
searches go through the edit graph, one from either end, and each of their rounds allows one more
edit; where they meet, the problem is cut in two. Insertions are then moved up as far as the lines
before them allow, and down again, so that neighbouring ones join. Between lines that stay,
deletions come before insertions.
-/

namespace NoteQuery.LineDiff

/-! ## Lines -/

/-- The lines of a text with their ends: a line feed, a carriage return, or both in this order. -/
def linesOf : List Char → List (List Char)
  | [] => []
  | '\r' :: '\n' :: cs => ['\r', '\n'] :: linesOf cs
  | c :: cs =>
    if c = '\n' ∨ c = '\r' then [c] :: linesOf cs
    else
      match linesOf cs with
      | [] => [[c]]
      | line :: lines => (c :: line) :: lines

/-! ## Meeting in the middle

A diagonal is the difference between the numbers of old and new lines that a search has passed. For
each diagonal a search keeps the furthest number of old lines. -/

section Middle

variable {α : Type} [DecidableEq α]

/-- Number of equal lines from `x` in `old` and `y` in `new` on. -/
def commonAhead (old new : Array α) : (fuel x y : Nat) → Nat
  | 0, _, _ => 0
  | fuel + 1, x, y =>
    match old[x]?, new[y]? with
    | some a, some b => if a = b then commonAhead old new fuel (x + 1) (y + 1) + 1 else 0
    | _, _ => 0

/-- Furthest numbers of old lines by diagonal; `width` is the index of diagonal 0. -/
structure Frontier where
  width : Nat
  furthest : Array Nat

/-- A frontier before its first round. -/
def Frontier.initial (rounds : Nat) : Frontier := ⟨rounds + 1, Array.replicate (2 * rounds + 3) 0⟩

/-- Furthest number of old lines on a diagonal. -/
def Frontier.get (f : Frontier) (diagonal : Int) : Nat :=
  f.furthest.getD (f.width + diagonal).toNat 0

/-- The frontier with another number on a diagonal. -/
def Frontier.set (f : Frontier) (diagonal : Int) (x : Nat) : Frontier :=
  { f with furthest := f.furthest.setIfInBounds (f.width + diagonal).toNat x }

/-- Where a round starts on a diagonal: one edit behind a neighbour. -/
def Frontier.next (f : Frontier) (round diagonal : Int) : Nat :=
  if diagonal = -round ∨ (diagonal ≠ round ∧ f.get (diagonal - 1) < f.get (diagonal + 1)) then
    f.get (diagonal + 1)
  else f.get (diagonal - 1) + 1

/-- A stretch of equal lines: the lines passed before it, and its length. -/
structure Stretch where
  x : Nat
  y : Nat
  length : Nat

/-- One round of a search over the diagonals `round`, `round - 2`, …, of which `count` are left. It
ends early with the stretch of equal lines on which the searches meet, as `meets` tells. -/
def searchRound (old new : Array α) (round : Nat) (meets : Int → Nat → Bool) :
    (count : Nat) → Frontier → Frontier × Option Stretch
  | 0, f => (f, none)
  | count + 1, f =>
    let diagonal : Int := 2 * count - round
    let x := f.next round diagonal
    let y := (x - diagonal).toNat
    let length := commonAhead old new old.size x y
    let f := f.set diagonal (x + length)
    if meets diagonal (x + length) then (f, some ⟨x, y, length⟩)
    else searchRound old new round meets count f

/-- Searches from both ends, round after round. The result is a place between lines of `old` and of
`new` that a shortest edit script passes. -/
def searchFrom (old new : Array α) :
    (fuel round : Nat) → (forward backward : Frontier) → Option (Nat × Nat)
  | 0, _, _, _ => none
  | fuel + 1, round, forward, backward =>
    let skew : Int := old.size - new.size
    let odd := skew % 2 == 1
    let forwardMeets (diagonal : Int) (x : Nat) : Bool :=
      odd && (diagonal - skew).natAbs + 1 ≤ round && old.size ≤ x + backward.get (skew - diagonal)
    let (forward, met) := searchRound old new round forwardMeets (round + 1) forward
    match met with
    | some stretch => some (stretch.x, stretch.y)
    | none =>
      let backwardMeets (diagonal : Int) (x : Nat) : Bool :=
        !odd && (diagonal - skew).natAbs ≤ round && old.size ≤ x + forward.get (skew - diagonal)
      let (backward, met) :=
        searchRound old.reverse new.reverse round backwardMeets (round + 1) backward
      match met with
      | some stretch =>
        some (old.size - (stretch.x + stretch.length), new.size - (stretch.y + stretch.length))
      | none => searchFrom old new fuel (round + 1) forward backward

/-- A place that a shortest edit script passes. -/
def middle (old new : Array α) : Option (Nat × Nat) :=
  let rounds := (old.size + new.size + 1) / 2 + 1
  searchFrom old new rounds 0 (.initial rounds) (.initial rounds)

end Middle

/-! ## Runs of lines -/

section Runs

variable {α : Type} [DecidableEq α]

/-- Neighbouring lines that share their fate. -/
inductive Run (α : Type) where
  | keep (lines : List α)
  | delete (lines : List α)
  | insert (lines : List α)

/-- The longest common beginning of two lists. -/
def commonFront : List α → List α → List α
  | a :: as, b :: bs => if a = b then a :: commonFront as bs else []
  | _, _ => []

/-- The longest common end of two lists. -/
def commonBack (as bs : List α) : List α := (commonFront as.reverse bs.reverse).reverse

/-- The list without its last `n` members. -/
def dropBack (n : Nat) (as : List α) : List α := as.take (as.length - n)

/-- A run of kept lines, if there are any. -/
def keepRun (lines : List α) : List (Run α) := if lines.isEmpty then [] else [.keep lines]

/-- Runs that turn `old` into `new`. -/
def runs : (fuel : Nat) → (old new : List α) → List (Run α)
  | 0, old, new => [.delete old, .insert new]
  | fuel + 1, old, new =>
    let front := commonFront old new
    let old := old.drop front.length
    let new := new.drop front.length
    let back := commonBack old new
    let old := dropBack back.length old
    let new := dropBack back.length new
    let changed : List (Run α) :=
      match old, new with
      | [], [] => []
      | old, [] => [.delete old]
      | [], new => [.insert new]
      | old, new =>
        match middle old.toArray new.toArray with
        | some (x, y) => runs fuel (old.take x) (new.take y) ++ runs fuel (old.drop x) (new.drop y)
        | none => [.delete old, .insert new]
    keepRun front ++ changed ++ keepRun back

/-! ## Joining runs -/

/-- Runs around one of them; those before it are given last first. -/
structure Focus (α : Type) where
  before : List (Run α)
  here : Run α
  after : List (Run α)

/-- Puts kept lines in front of runs. -/
def consKept (lines : List α) : List (Run α) → List (Run α)
  | .keep others :: rest => .keep (lines ++ others) :: rest
  | rest => .keep lines :: rest

/-- Puts kept lines behind runs that are given last first. -/
def snocKept (lines : List α) : List (Run α) → List (Run α)
  | .keep others :: rest => .keep (others ++ lines) :: rest
  | rest => .keep lines :: rest

/-- Moves the focused run up: past deletions or insertions of the other kind, together with runs of
its own kind, and, if it is an insertion, past kept lines that it ends with too. -/
def moveUp : (fuel : Nat) → Focus α → Focus α
  | 0, f => f
  | fuel + 1, ⟨before, here, after⟩ =>
    match here, before with
    | .insert lines, .keep kept :: before =>
      let shared := commonBack kept lines
      if shared.isEmpty then ⟨.keep kept :: before, .insert lines, after⟩
      else
        moveUp fuel ⟨keepRun (dropBack shared.length kept) ++ before,
          .insert (shared ++ dropBack shared.length lines), consKept shared after⟩
    | .insert lines, .delete deleted :: before =>
      moveUp fuel ⟨before, .insert lines, .delete deleted :: after⟩
    | .delete lines, .insert inserted :: before =>
      moveUp fuel ⟨before, .delete lines, .insert inserted :: after⟩
    | .insert lines, .insert others :: before =>
      moveUp fuel ⟨before, .insert (others ++ lines), after⟩
    | .delete lines, .delete others :: before =>
      moveUp fuel ⟨before, .delete (others ++ lines), after⟩
    | here, before => ⟨before, here, after⟩

/-- Moves the focused run down, as `moveUp` moves it up. -/
def moveDown : (fuel : Nat) → Focus α → Focus α
  | 0, f => f
  | fuel + 1, ⟨before, here, after⟩ =>
    match here, after with
    | .insert lines, .keep kept :: after =>
      let shared := commonFront kept lines
      if shared.isEmpty then ⟨before, .insert lines, .keep kept :: after⟩
      else
        moveDown fuel ⟨snocKept shared before, .insert (lines.drop shared.length ++ shared),
          keepRun (kept.drop shared.length) ++ after⟩
    | .insert lines, .delete deleted :: after =>
      moveDown fuel ⟨.delete deleted :: before, .insert lines, after⟩
    | .delete lines, .insert inserted :: after =>
      moveDown fuel ⟨.insert inserted :: before, .delete lines, after⟩
    | .insert lines, .insert others :: after =>
      moveDown fuel ⟨before, .insert (lines ++ others), after⟩
    | .delete lines, .delete others :: after =>
      moveDown fuel ⟨before, .delete (lines ++ others), after⟩
    | here, after => ⟨before, here, after⟩

/-- Moves every run that `chosen` picks up and down, from the first run on. -/
def moveAll (chosen : Run α → Bool) (limit : Nat) :
    (fuel : Nat) → (before after : List (Run α)) → List (Run α)
  | 0, before, after => before.reverse ++ after
  | _ + 1, before, [] => before.reverse
  | fuel + 1, before, here :: after =>
    let f : Focus α := ⟨before, here, after⟩
    let f := if chosen here then moveDown limit (moveUp limit f) else f
    moveAll chosen limit fuel (f.here :: f.before) f.after

/-- Whether a run deletes lines. -/
def Run.isDelete : Run α → Bool
  | .delete _ => true
  | _ => false

/-- Whether a run inserts lines. -/
def Run.isInsert : Run α → Bool
  | .insert _ => true
  | _ => false

/-! ## Changes -/

/-- What becomes of a line. -/
inductive Change (α : Type) where
  | keep (line : α)
  | delete (line : α)
  | insert (line : α)

/-- Changes line by line; between kept lines, `deleted` and `inserted` collect the others. -/
def changesFrom (deleted inserted : List α) : List (Run α) → List (Change α)
  | [] => deleted.map .delete ++ inserted.map .insert
  | .delete lines :: rest => changesFrom (deleted ++ lines) inserted rest
  | .insert lines :: rest => changesFrom deleted (inserted ++ lines) rest
  | .keep lines :: rest =>
    deleted.map .delete ++ inserted.map .insert ++ lines.map .keep ++ changesFrom [] [] rest

/-- The changes that turn `old` into `new`. -/
def changes (old new : List α) : List (Change α) :=
  let total := old.length + new.length + 1
  let limit := total * total
  let found := runs total old new
  let found := moveAll Run.isDelete limit limit [] found
  let found := moveAll Run.isInsert limit limit [] found
  changesFrom [] [] found

end Runs

/-! ## Texts -/

/-- A line with its sign, indented; a line without an end gets one. -/
def shownLine (sign : Char) (line : List Char) : List Char :=
  [' ', ' ', sign] ++ line ++
    (if line.getLast? = some '\n' ∨ line.getLast? = some '\r' then [] else ['\n'])

/-- A changed line with its sign. -/
def Change.shown : Change (List Char) → List Char
  | .keep line => shownLine ' ' line
  | .delete line => shownLine '-' line
  | .insert line => shownLine '+' line

/-- The difference between two texts, with an empty line behind it. -/
def shown (old new : String) : String :=
  String.ofList ((changes (linesOf old.toList) (linesOf new.toList)).flatMap Change.shown) ++ "\n"

end NoteQuery.LineDiff
