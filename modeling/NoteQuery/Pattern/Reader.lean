import NoteQuery.Number.Power
import NoteQuery.Pattern.AsciiSet
import NoteQuery.Pattern.Automaton
import NoteQuery.Pattern.Error
import NoteQuery.Pattern.Property

/-! # Reading patterns

The pattern language: characters and escapes, sets in brackets, groups, alternatives, repetitions,
anchors and flags. There is no look-around and no back-reference. Reading fails on anything else,
and a brace always opens a repetition count.

The readers thread a state: the rest of the pattern, the flags in force, and the group names that
are taken. Flags set inside of a group end with it.
-/

namespace NoteQuery.Pattern

open NoteQuery.Text NoteQuery.Unicode

/-! ## State -/

/-- Flags of a pattern. -/
structure Flags where
  ignoreCase : Bool := false
  multiLine : Bool := false
  dotAll : Bool := false
  crlf : Bool := false
  unicode : Bool := true
  /-- Repetitions are greedy where a question mark says the contrary, and the other way round. -/
  swapGreed : Bool := false
  /-- Blanks and comments in the pattern do not count. -/
  extended : Bool := false
deriving Inhabited

/-- Where a reader stands. -/
structure State where
  rest : List Char
  flags : Flags
  /-- Names of groups so far. -/
  names : List String
deriving Inhabited

/-- A reader, which may fail. -/
abbrev Reader := StateT State Option

/-- Failure. -/
private def refuse {α : Type} : Reader α := fun _ => none

/-- The next character, if there is one. -/
private def peek? : Reader (Option Char) := do return (← get).rest.head?

/-- Drops the next character. -/
private def skip : Reader Unit := modify (fun s => { s with rest := s.rest.tail })

/-- The next character, which is dropped. -/
private def next : Reader Char := do
  match ← peek? with
  | none => refuse
  | some c => skip; return c

/-- Drops a given text if it comes next. -/
private def skipIf (lead : String) : Reader Bool := do
  match after? lead.toList (← get).rest with
  | none => return false
  | some rest => modify (fun s => { s with rest }); return true

/-- A text without leading blanks and comments. -/
private def withoutComments : (fuel : Nat) → List Char → List Char
  | 0, cs => cs
  | _ + 1, [] => []
  | fuel + 1, c :: cs =>
    if isBlank c then withoutComments fuel cs
    else if c = '#' then withoutComments fuel (cs.dropWhile (· != '\n'))
    else c :: cs

/-- Drops blanks and comments if they do not count. -/
private def skipSpace : Reader Unit := do
  let s ← get
  if s.flags.extended then set { s with rest := withoutComments (s.rest.length + 1) s.rest }

/-- Drops the next character and what does not count behind it; something must be left. -/
private def advance : Reader Unit := do
  skip
  skipSpace
  if (← get).rest.isEmpty then refuse

/-- What comes behind the next character. Where blanks do not count they are passed over, and so is
one number sign, but not the comment that it opens; if nothing is left, a blank counts after all. -/
private def peekBehind? : Reader (Option Char) := do
  let s ← get
  let rest := s.rest.tail
  if s.flags.extended then
    let behind := rest.dropWhile isBlank
    let behind := if behind.head? = some '#' then behind.tail.dropWhile isBlank else behind
    return behind.head? <|> rest.head?
  else return rest.head?

/-! ## Sets under the flags in force -/

/-- A set as it matches: without Unicode it may hold ASCII characters only. -/
private def admitted (flags : Flags) (set : CharSet) : Reader CharSet :=
  if flags.unicode then return set
  else if (List.range 0x80).any (fun i => set.contains (0x80 + i)) then refuse
  else return set

/-- A set of one character, or of all that equal it up to case. -/
private def characterSet (flags : Flags) (c : Char) : CharSet :=
  if flags.ignoreCase then
    if flags.unicode then .folded (.single c)
    else if c.isAlpha then .union (.single c.toLower) (.single c.toUpper)
    else .single c
  else .single c

/-- The set of a letter that names a class, such as `d` or `W`. -/
private def perlSet (flags : Flags) (c : Char) : CharSet :=
  let set : CharSet :=
    match c.toLower with
    | 'd' => if flags.unicode then .digit else .asciiDigit
    | 's' => if flags.unicode then .blank else .asciiBlank
    | _ => if flags.unicode then .word else .asciiWord
  .negatedIf c.isUpper set

/-- Closure under case folding if case is ignored; without Unicode only letters of ASCII fold. -/
private def foldedSet (flags : Flags) (set : CharSet) : CharSet :=
  if !flags.ignoreCase then set
  else if flags.unicode then .folded set
  else
    .unionAll (set :: (List.range 26).map (fun i =>
      if set.contains (0x41 + i) || set.contains (0x61 + i) then
        .union (.range (0x41 + i) (0x41 + i)) (.range (0x61 + i) (0x61 + i))
      else .empty))

/-! ## Escapes -/

/-- What an escape, or a plain character, stands for. -/
private inductive Primitive where
  | character (c : Char)
  /-- A byte that stands for no character. -/
  | byte
  | set (s : CharSet)
  | place (a : Anchor)

/-- Characters with a meaning of their own. -/
private def isMeta (c : Char) : Bool :=
  "\\.+*?()|[]\x7b\x7d^$#&-~".toList.contains c

/-- Reads hexadecimal digits up to a closing brace. -/
private def hexInBraces : (fuel : Nat) → List Char → Reader (List Char)
  | 0, _ => refuse
  | fuel + 1, done => do
    advance
    match ← peek? with
    | none => refuse
    | some '\x7d' => skip; skipSpace; return done.reverse
    | some c => if (hexDigit? c).isSome then hexInBraces fuel (c :: done) else refuse

/-- Reads a number of hexadecimal digits. -/
private def hexOfLength : (count : Nat) → Reader (List Char)
  | 0 => return []
  | count + 1 => do
    let c ← next
    if (hexDigit? c).isNone then refuse
    skipSpace
    return c :: (← hexOfLength count)

/-- Reads a hexadecimal escape behind its letter. -/
private def hexEscape (letter : Char) : Reader Primitive := do
  skipSpace
  let braced := (← peek?) == some '\x7b'
  let digits ←
    if braced then hexInBraces ((← get).rest.length + 1) []
    else hexOfLength (if letter = 'x' then 2 else if letter = 'u' then 4 else 8)
  if digits.isEmpty then refuse
  match charOfCode? (hexValue digits) with
  | none => refuse
  | some c =>
    if !braced && letter == 'x' && !(← get).flags.unicode && 0x80 ≤ c.toNat then return .byte
    else return .character c

/-- Reads a property's name in braces. -/
private def propertyName : (fuel : Nat) → List Char → Reader (List Char)
  | 0, _ => refuse
  | fuel + 1, done => do
    advance
    match ← peek? with
    | none => refuse
    | some '\x7d' => skip; return done.reverse
    | some c => propertyName fuel (c :: done)

/-- The set that a name in braces stands for. A property and its value stand on the two sides of the
first `!=`, or else of the first colon, or else of the first `=`; all three mean the same. -/
private def namedSet? (name : List Char) : Option CharSet :=
  let separated := [['!', '='], [':'], ['=']].findSome? (fun sign => splitAround? sign name)
  match separated with
  | some (property, value) => CharSet.ofPropertyValue? property value
  | none => CharSet.ofProperty? name

/-- Reads a property escape behind its letter. -/
private def propertyEscape (negated : Bool) : Reader Primitive := do
  let flags := (← get).flags
  skipSpace
  let set? ←
    match ← peek? with
    | none => refuse
    | some '\x7b' => namedSet? <$> propertyName ((← get).rest.length + 1) []
    | some '\\' => refuse
    | some c => do
      skip
      skipSpace
      pure (CharSet.ofProperty? [c])
  match set? with
  | none => refuse
  | some set =>
    if flags.unicode then return .set (.negatedIf negated (foldedSet flags set)) else refuse

/-- Name of a special word anchor in braces. -/
private def anchorName : (fuel : Nat) → List Char → Reader (List Char)
  | 0, _ => refuse
  | fuel + 1, done => do
    match ← peek? with
    | none => refuse
    | some c =>
      if c.isAlpha || c == '-' then
        skip
        skipSpace
        anchorName fuel (c :: done)
      else if c == '\x7d' then
        skip
        return done.reverse
      else refuse

/-- Reads a word anchor behind its letter; braces with no letter in them are left for a count. -/
private def wordAnchor (ascii : Bool) : Reader Primitive := do
  if (← peek?) != some '\x7b' then return .place (.wordEdge ascii)
  let before ← get
  advance
  match ← peek? with
  | some c =>
    if c.isAlpha || c == '-' then
      let name := String.ofList (← anchorName ((← get).rest.length + 1) [])
      if name = "start" then return .place (.wordStart ascii)
      else if name = "end" then return .place (.wordEnd ascii)
      else if name = "start-half" then return .place (.wordStartHalf ascii)
      else if name = "end-half" then return .place (.wordEndHalf ascii)
      else refuse
    else
      set before
      return .place (.wordEdge ascii)
  | none => refuse

/-- Reads an escape behind its backslash. -/
private def escape : Reader Primitive := do
  let c ← next
  let flags := (← get).flags
  let ascii := !flags.unicode
  if c.isDigit then refuse
  else if c = 'x' ∨ c = 'u' ∨ c = 'U' then hexEscape c
  else if c = 'p' ∨ c = 'P' then propertyEscape (c = 'P')
  else if "dswDSW".toList.contains c then return .set (perlSet flags c)
  else if isMeta c then return .character c
  else
    match c with
    | 'a' => return .character '\x07'
    | 'f' => return .character '\x0c'
    | 't' => return .character '\t'
    | 'n' => return .character '\n'
    | 'r' => return .character '\r'
    | 'v' => return .character '\x0b'
    | 'A' => return .place .textStart
    | 'z' => return .place .textEnd
    | 'b' => wordAnchor ascii
    | 'B' => return .place (.noWordEdge ascii)
    | '<' => return .place (.wordStart ascii)
    | '>' => return .place (.wordEnd ascii)
    | c => if c.toNat < 0x80 && !c.isAlphanum then return .character c else refuse

/-! ## Sets in brackets

An item comes with the depth of the brackets and set operations in it. -/

private abbrev Item := CharSet × Nat

/-- The set of items side by side. -/
private def itemsUnion (items : List Item) : Item :=
  match items with
  | [] => (.empty, 0)
  | [item] => item
  | items => (.unionAll (items.map (·.1)), (items.map (·.2)).foldl Nat.max 0 + 1)

/-- An operation between sets. -/
private inductive SetOperator where
  | inter | diff | symmDiff

/-- Applies an operation to what stands left and right of it. -/
private def applyOperator (flags : Flags) (left : Option (SetOperator × Item)) (right : Item) :
    Item :=
  match left with
  | none => right
  | some (op, (a, depth)) =>
    let a := foldedSet flags a
    let b := foldedSet flags right.1
    let set :=
      match op with
      | .inter => .inter a b
      | .diff => .diff a b
      | .symmDiff => .symmDiff a b
    (set, Nat.max depth right.2 + 1)

/-- Reads the hyphens at the start of a set, which stand for themselves. -/
private def leadingHyphens : (fuel : Nat) → Reader (List Item)
  | 0 => return []
  | fuel + 1 => do
    if (← peek?) == some '-' then
      advance
      return (.single '-', 0) :: (← leadingHyphens fuel)
    else return []

/-- Reads an opening bracket and what can only stand behind it: whether the set is negated, and its
first items. -/
private def openSet : Reader (Bool × List Item) := do
  advance
  let negated := (← peek?) == some '^'
  if negated then advance
  let hyphens ← leadingHyphens (← get).rest.length
  if hyphens.isEmpty && (← peek?) == some ']' then
    advance
    return (negated, [(.single ']', 0)])
  else return (negated, hyphens)

/-- The ASCII set between `[:` and `:]`, if one comes next. -/
private def asciiSet? (flags : Flags) (cs : List Char) : Option (CharSet × List Char) := do
  let cs ← after? ['[', ':'] cs
  let negated := cs.head? == some '^'
  let cs := if negated then cs.tail else cs
  let name := cs.takeWhile (· != ':')
  let rest ← after? [':', ']'] (cs.drop name.length)
  let set ← CharSet.ofAsciiName? (String.ofList name)
  some (.negatedIf negated (foldedSet flags set), rest)

/-- Reads one character or escape in a set. -/
private def setPrimitive : Reader Primitive := do
  let c ← next
  if c = '\\' then escape else return .character c

/-- A primitive that stands alone in a set. -/
private def primitiveItem (flags : Flags) : Primitive → Reader Item
  | .character c => if flags.unicode || c.toNat < 0x80 then return (.single c, 0) else refuse
  | .set s => return (← admitted flags s, 0)
  | _ => refuse

/-- Reads a character, a range of characters, or a class in a set. -/
private def setRange : Reader Item := do
  let first ← setPrimitive
  skipSpace
  let flags := (← get).flags
  match ← peek? with
  | none => refuse
  | some '-' =>
    let behind ← peekBehind?
    if behind == some ']' || behind == some '-' then primitiveItem flags first
    else
      advance
      let last ← setPrimitive
      match first, last with
      | .character a, .character b =>
        if b < a || (!flags.unicode && 0x80 ≤ b.toNat) then refuse
        else return (.range a.toNat b.toNat, 0)
      | _, _ => refuse
  | some _ => primitiveItem flags first

/-- Reads a set in brackets from its opening bracket on. What is inside of it is read with the items
since the last operator, last first, and what stands left of that operator. -/
private def bracketed : (fuel : Nat) → Reader Item
  | 0 => refuse
  | fuel + 1 => do
    let (negated, first) ← openSet
    let flags := (← get).flags
    let (set, depth) ← inside fuel first.reverse none
    let set ← admitted flags (.negatedIf negated (foldedSet flags set))
    return (set, depth + 1)
where
  /-- Reads items up to the closing bracket. -/
  inside : (fuel : Nat) → List Item → Option (SetOperator × Item) → Reader Item
  | 0, _, _ => refuse
  | fuel + 1, items, left => do
    skipSpace
    let s ← get
    let operator (op : SetOperator) : Reader Item := do
      skip
      skip
      inside fuel [] (some (op, applyOperator s.flags left (itemsUnion items.reverse)))
    match s.rest with
    | [] => refuse
    | ']' :: _ =>
      skip
      return applyOperator s.flags left (itemsUnion items.reverse)
    | '[' :: _ =>
      match asciiSet? s.flags s.rest with
      | some (set, rest) =>
        MonadStateOf.set { s with rest }
        let set ← admitted s.flags set
        inside fuel ((set, 0) :: items) left
      | none =>
        let item ← bracketed fuel
        inside fuel (item :: items) left
    | '&' :: '&' :: _ => operator .inter
    | '-' :: '-' :: _ => operator .diff
    | '~' :: '~' :: _ => operator .symmDiff
    | _ :: _ =>
      let item ← setRange
      inside fuel (item :: items) left

/-! ## Groups and flags -/

/-- Sets or clears one flag. -/
private def setFlag (flags : Flags) (letter : Char) (on : Bool) : Option Flags :=
  match letter with
  | 'i' => some { flags with ignoreCase := on }
  | 'm' => some { flags with multiLine := on }
  | 's' => some { flags with dotAll := on }
  | 'R' => some { flags with crlf := on }
  | 'u' => some { flags with unicode := on }
  | 'x' => some { flags with extended := on }
  | 'U' => some { flags with swapGreed := on }
  | _ => none

/-- Reads flags up to a colon or a closing parenthesis, which is read too. No flag and no minus sign
may be given twice, and a minus sign needs a flag behind it. -/
private def readFlags :
    (fuel : Nat) → (seen : List Char) → (flags : Flags) → Reader (Char × List Char × Flags)
  | 0, _, _ => refuse
  | fuel + 1, seen, flags => do
    let c ← next
    if c = ':' ∨ c = ')' then
      if seen.head? = some '-' then refuse else return (c, seen, flags)
    else if seen.contains c then refuse
    else if c = '-' then readFlags fuel (c :: seen) flags
    else
      match setFlag flags c (!seen.contains '-') with
      | none => refuse
      | some flags => readFlags fuel (c :: seen) flags

/-- Reads a group's name up to its closing angle bracket. No two groups share a name. -/
private def groupName : Reader Unit := do
  let s ← get
  let name := s.rest.takeWhile (· != '>')
  match name with
  | [] => refuse
  | first :: others =>
    let firstFits := first == '_' || isAlphabetic first
    let othersFit :=
      others.all (fun c => c == '_' || c == '.' || c == '[' || c == ']' || isAlphanumeric c)
    let text := String.ofList name
    if !firstFits || !othersFit || s.names.contains text || s.rest.length == name.length then refuse
    else set { s with rest := s.rest.drop (name.length + 1), names := text :: s.names }

/-- Whether a look-around group comes next. -/
private def lookAroundFollows : Reader Bool := do
  let rest := (← get).rest
  return ["?=", "?!", "?<=", "?<!"].any (fun lead => lead.toList.isPrefixOf rest)

/-! ## Repetitions -/

/-- Drops blanks. -/
private def skipBlanks : Reader Unit :=
  modify (fun s => { s with rest := s.rest.dropWhile isBlank })

/-- Reads decimal digits. -/
private def digitRun : (fuel : Nat) → Reader (List Char)
  | 0 => return []
  | fuel + 1 => do
    match ← peek? with
    | none => return []
    | some c =>
      if isAsciiDigit c then
        skip
        skipSpace
        return c :: (← digitRun fuel)
      else return []

/-- Reads a number of 32 bits with blanks around it. -/
private def count : Reader Nat := do
  skipBlanks
  let digits ← digitRun (← get).rest.length
  skipBlanks
  skipSpace
  if digits.isEmpty || twoTo 32 ≤ decimalValue digits then refuse
  return decimalValue digits

/-- Reads a repetition count from its opening brace on. -/
private def counts : Reader (Nat × Option Nat) := do
  advance
  let min ← count
  let max ←
    match ← peek? with
    | some ',' => do
      advance
      if (← peek?) == some '\x7d' then pure none else some <$> count
    | _ => pure (some min)
  if (← next) ≠ '\x7d' then refuse
  match max with
  | some max => if max < min then refuse else return (min, some max)
  | none => return (min, none)

/-! ## Patterns -/

/-- Pattern of a primitive outside of brackets. -/
private def primitivePattern (flags : Flags) : Primitive → Reader Pattern
  | .character c => return .one (characterSet flags c) 0
  | .byte => refuse
  | .set s => do return .one (← admitted flags s) 0
  | .place a => return .anchor a

/-- The set that a dot stands for. -/
private def dotSet (flags : Flags) : CharSet :=
  if flags.dotAll then .any
  else if flags.crlf then .complement (.union (.single '\n') (.single '\r'))
  else .complement (.single '\n')

/-- Repeats the last pattern of a sequence, which is given last first; with a question mark behind
the operator the repetition is not greedy. -/
private def repeatLast (done : List Pattern) (min : Nat) (max : Option Nat) :
    Reader (List Pattern) := do
  match done with
  | [] => refuse
  | p :: done =>
    if !p.isRepeatable then refuse
    let greedy := (← peek?) != some '?'
    if !greedy then skip
    return .repetition p min max (greedy != (← get).flags.swapGreed) :: done

mutual

/-- Reads alternatives up to the end of the group or of the pattern. -/
private def choices : (fuel : Nat) → Reader (List Pattern)
  | 0 => refuse
  | fuel + 1 => do
    let first ← sequenceFrom fuel []
    if (← peek?) == some '|' then
      skip
      return first :: (← choices fuel)
    else return [first]

/-- Reads a sequence behind the patterns already read, which are given last first. -/
private def sequenceFrom : (fuel : Nat) → List Pattern → Reader Pattern
  | 0, _ => refuse
  | fuel + 1, done => do
    skipSpace
    let flags := (← get).flags
    match ← peek? with
    | none | some ')' | some '|' => return ofSequence done.reverse
    | some '(' =>
      skip
      let p ← groupBody fuel
      sequenceFrom fuel (p :: done)
    | some '[' =>
      let (set, depth) ← bracketed fuel
      sequenceFrom fuel (.one set depth :: done)
    | some '*' => skip; sequenceFrom fuel (← repeatLast done 0 none)
    | some '+' => skip; sequenceFrom fuel (← repeatLast done 1 none)
    | some '?' => skip; sequenceFrom fuel (← repeatLast done 0 (some 1))
    | some '\x7b' =>
      if done.isEmpty then refuse
      let (min, max) ← counts
      skipSpace
      sequenceFrom fuel (← repeatLast done min max)
    | some '\\' =>
      skip
      let p ← primitivePattern flags (← escape)
      sequenceFrom fuel (p :: done)
    | some '.' => skip; sequenceFrom fuel (.one (← admitted flags (dotSet flags)) 0 :: done)
    | some '^' =>
      skip
      sequenceFrom fuel
        (.anchor (if flags.multiLine then .lineStart flags.crlf else .textStart) :: done)
    | some '$' =>
      skip
      sequenceFrom fuel
        (.anchor (if flags.multiLine then .lineEnd flags.crlf else .textEnd) :: done)
    | some c => skip; sequenceFrom fuel (.one (characterSet flags c) 0 :: done)

/-- Reads what follows an opening parenthesis: a group, or a setting of flags. -/
private def groupBody : (fuel : Nat) → Reader Pattern
  | 0 => refuse
  | fuel + 1 => do
    skipSpace
    if ← lookAroundFollows then refuse
    let flags := (← get).flags
    if (← skipIf "?P<") || (← skipIf "?<") then
      groupName
      closeGroup fuel flags true
    else if ← skipIf "?" then
      let (last, seen, inner) ← readFlags fuel [] flags
      modify (fun s => { s with flags := inner })
      if last = ':' then closeGroup fuel flags false
      else if seen.isEmpty then refuse
      else return .setting
    else closeGroup fuel flags true

/-- Reads a group's alternatives and its closing parenthesis, and brings back the flags. -/
private def closeGroup : (fuel : Nat) → (outer : Flags) → (remembered : Bool) → Reader Pattern
  | 0, _, _ => refuse
  | fuel + 1, outer, remembered => do
    let alternatives ← choices fuel
    if (← next) ≠ ')' then refuse
    modify (fun s => { s with flags := outer })
    return .group (ofChoice alternatives) remembered

end

/-- The pattern that a text spells, however large it is. -/
def spelled? (text : String) : Option Pattern := do
  let fuel := 4 * text.length + 8
  let (alternatives, state) ← (choices fuel).run ⟨text.toList, {}, []⟩
  if state.rest.isEmpty then some (ofChoice alternatives) else none

/-- The pattern that a text spells, if it is small enough to be searched for. -/
def ofText? (text : String) : Option Pattern :=
  (spelled? text).filter isAdmissible

/-- The pattern of a filter, unless it is refused. -/
def ofSource (text : String) : Except PatternError Pattern :=
  if maxPatternBytes < text.utf8ByteSize then .error .tooLong
  else
    match ofText? text with
    | none => .error .malformed
    | some p => .ok p

end NoteQuery.Pattern
