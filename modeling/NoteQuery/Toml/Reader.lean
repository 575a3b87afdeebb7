import NoteQuery.Number.Reading
import NoteQuery.Toml.Basic
import NoteQuery.Unicode.Class

/-! # Reading TOML

Reads version 1.0 of the format. The readers thread the rest of the text and fail on anything else.
-/

namespace NoteQuery.Toml

open NoteQuery.Text NoteQuery.Unicode

/-- A reader, which may fail. -/
abbrev Reader := StateT (List Char) Option

/-- Failure. -/
private def refuse {α : Type} : Reader α := fun _ => none

/-- The next character, if there is one. -/
private def peek? : Reader (Option Char) := do return (← get).head?

/-- Drops the next character. -/
private def skip : Reader Unit := modify List.tail

/-- The next character, which is dropped. -/
private def next : Reader Char := do
  match ← get with
  | [] => refuse
  | c :: cs => set cs; return c

/-- Drops a given text if it comes next. -/
private def skipIf (lead : List Char) : Reader Bool := do
  match after? lead (← get) with
  | none => return false
  | some rest => set rest; return true

/-- Drops a given text, which must come next. -/
private def expect (lead : List Char) : Reader Unit := do
  if ← skipIf lead then return else refuse

/-- The characters in front that satisfy `p`, which are dropped. -/
private def takeRun (p : Char → Bool) : Reader (List Char) := do
  let cs ← get
  set (cs.dropWhile p)
  return cs.takeWhile p

/-! ## Blanks and comments -/

/-- Drops blanks of one line. -/
private def skipBlanks : Reader Unit := do
  let _ ← takeRun (fun c => c == ' ' || c == '\t')

/-- Drops the end of a line if it comes next. -/
private def skipNewline : Reader Bool := do
  if ← skipIf ['\n'] then return true else skipIf ['\r', '\n']

/-- Characters that may stand in comments and strings: all but control characters. -/
private def isPlain (c : Char) : Bool := c == '\t' || (0x20 ≤ c.toNat && c != '\x7f')

/-- Drops a comment if one comes next, up to the end of its line. -/
private def skipComment : Reader Unit := do
  if (← peek?) == some '#' then
    let _ ← takeRun isPlain

/-- Drops blanks, ends of lines and comments. -/
private def skipLines : (fuel : Nat) → Reader Unit
  | 0 => return
  | fuel + 1 => do
    skipBlanks
    if ← skipNewline then skipLines fuel
    else if (← peek?) == some '#' then
      skipComment
      skipLines fuel

/-- Reads what may stand behind the last item of a line. -/
private def lineEnd : Reader Unit := do
  skipBlanks
  skipComment
  if (← get).isEmpty then return
  if ← skipNewline then return else refuse

/-! ## Strings -/

/-- Reads a number of hexadecimal digits as a character. -/
private def hexCharacter (count : Nat) : Reader Char := do
  let digits := (← get).take count
  modify (List.drop count)
  if digits.length ≠ count || digits.any (fun c => (hexDigit? c).isNone) then refuse
  match charOfCode? (hexValue digits) with
  | none => refuse
  | some c => return c

/-- Reads an escape behind its backslash. -/
private def escaped : Reader Char := do
  match ← next with
  | 'b' => return '\x08'
  | 't' => return '\t'
  | 'n' => return '\n'
  | 'f' => return '\x0c'
  | 'r' => return '\r'
  | '"' => return '"'
  | '\\' => return '\\'
  | 'u' => hexCharacter 4
  | 'U' => hexCharacter 8
  | _ => refuse

/-- Reads a string of one line behind its opening quote; `escapes` says whether a backslash has a
meaning. -/
private def oneLine (quote : Char) (escapes : Bool) : (fuel : Nat) → List Char → Reader String
  | 0, _ => refuse
  | fuel + 1, done => do
    let c ← next
    if c = quote then return String.ofList done.reverse
    else if c = '\\' ∧ escapes then oneLine quote escapes fuel ((← escaped) :: done)
    else if isPlain c then oneLine quote escapes fuel (c :: done)
    else refuse

/-- Drops blanks and ends of lines. -/
private def skipBreaks : (fuel : Nat) → Reader Unit
  | 0 => return
  | fuel + 1 => do
    skipBlanks
    if ← skipNewline then skipBreaks fuel

/-- Reads a string of several lines behind its opening quotes. Up to two quotes may stand next to
each other in it; a backslash at the end of a line drops the blanks and ends of lines behind it. -/
private def manyLines (quote : Char) (escapes : Bool) : (fuel : Nat) → List Char → Reader String
  | 0, _ => refuse
  | fuel + 1, done => do
    if ← skipNewline then manyLines quote escapes fuel ('\n' :: done)
    else
      match ← peek? with
      | none => refuse
      | some c =>
        if c = quote then
          let count := Nat.min 5 ((← get).takeWhile (· == quote)).length
          modify (List.drop count)
          if count < 3 then manyLines quote escapes fuel (List.replicate count quote ++ done)
          else return String.ofList (done.reverse ++ List.replicate (count - 3) quote)
        else if c = '\\' ∧ escapes then
          skip
          let behind := (← get).dropWhile (fun c => c == ' ' || c == '\t')
          if behind.head? == some '\n' || ['\r', '\n'].isPrefixOf behind then
            skipBreaks (behind.length + 1)
            manyLines quote escapes fuel done
          else manyLines quote escapes fuel ((← escaped) :: done)
        else if isPlain c then
          skip
          manyLines quote escapes fuel (c :: done)
        else refuse

/-- Reads a string behind its first quote. -/
private def stringBody (quote : Char) : Reader String := do
  let escapes := quote == '"'
  let fuel := (← get).length + 1
  if ← skipIf [quote, quote] then
    let _ ← skipNewline
    manyLines quote escapes fuel []
  else oneLine quote escapes fuel []

/-! ## Numbers and times -/

/-- Whether a text has digits only, with single underscores between them. -/
private def isGrouped (isDigit : Char → Bool) (cs : List Char) : Bool :=
  (splitBy (· == '_') cs).all (fun group => !group.isEmpty && group.all isDigit)

/-- Whether a text is a decimal number without superfluous zeros. -/
private def isWhole (cs : List Char) : Bool :=
  isGrouped isAsciiDigit cs && (cs.length == 1 || cs.head? != some '0')

/-- A text without underscores. -/
private def ungrouped (cs : List Char) : List Char := cs.filter (· != '_')

/-- A text's sign, if any, and what follows it. -/
private def signed (cs : List Char) : Option Char × List Char :=
  match cs with
  | '+' :: rest => (some '+', rest)
  | '-' :: rest => (some '-', rest)
  | rest => (none, rest)

/-- Value of digits in a base. -/
private def valueIn (base : Nat) (cs : List Char) : Nat :=
  cs.foldl (fun n c => n * base + (hexDigit? c).getD 0) 0

/-- An integer of 64 bits. -/
private def integer? (cs : List Char) : Option Int :=
  let based (base : Nat) (digits : List Char) : Option Int :=
    if isGrouped (fun c => (hexDigit? c).any (· < base)) digits then
      some (valueIn base (ungrouped digits))
    else none
  let found : Option Int :=
    match cs with
    | '0' :: 'x' :: digits => based 16 digits
    | '0' :: 'o' :: digits => based 8 digits
    | '0' :: 'b' :: digits => based 2 digits
    | cs =>
      let (sign, digits) := signed cs
      if isWhole digits then
        let n : Int := decimalValue (ungrouped digits)
        some (if sign = some '-' then -n else n)
      else none
  found.filter (fun n => -(twoTo 63 : Int) ≤ n ∧ n < (twoTo 63 : Int))

/-- Whether a text is an exponent, its letter included. -/
private def isExponent (cs : List Char) : Bool :=
  match cs with
  | 'e' :: rest | 'E' :: rest => isGrouped isAsciiDigit (signed rest).2
  | _ => false

/-- A binary64 number; it must not be too large. -/
private def float? (cs : List Char) : Option Binary64 :=
  let (sign, body) := signed cs
  if body = ['i', 'n', 'f'] then some (.infinity (sign = some '-'))
  else if body = ['n', 'a', 'n'] then some (.nan (sign = some '-'))
  else
    let inNumeral (c : Char) : Bool := isAsciiDigit c || c == '_'
    let whole := body.takeWhile inNumeral
    let fits :=
      isWhole whole &&
        match body.dropWhile inNumeral with
        | '.' :: rest =>
          let exponent := rest.dropWhile inNumeral
          isGrouped isAsciiDigit (rest.takeWhile inNumeral) &&
            (exponent.isEmpty || isExponent exponent)
        | exponent => isExponent exponent
    if fits then
      (Binary64.ofText? (String.ofList (ungrouped cs))).filter (· != .infinity false)
    else none

/-- Number of days in a month. -/
private def daysIn (year month : Nat) : Nat :=
  if month = 2 then
    if (year % 4 = 0 ∧ year % 100 ≠ 0) ∨ year % 400 = 0 then 29 else 28
  else if [4, 6, 9, 11].contains month then 30
  else 31

/-- Value of a text with a given number of decimal digits. -/
private def digits? (count : Nat) (cs : List Char) : Option Nat :=
  if cs.length = count ∧ cs.all isAsciiDigit then some (decimalValue cs) else none

/-- Whether a text is a date. -/
private def isDate (cs : List Char) : Bool :=
  match (splitBy (· == '-') cs) with
  | [year, month, day] =>
    match digits? 4 year, digits? 2 month, digits? 2 day with
    | some year, some month, some day =>
      1 ≤ month && month ≤ 12 && 1 ≤ day && day ≤ daysIn year month
    | _, _, _ => false
  | _ => false

/-- Whether a text is an hour and a minute. -/
private def isMinuteTime (cs : List Char) : Bool :=
  match splitBy (· == ':') cs with
  | [hour, minute] => (digits? 2 hour).any (· < 24) && (digits? 2 minute).any (· < 60)
  | _ => false

/-- Whether a text is a time of day with seconds, and maybe parts of a second. -/
private def isTime (cs : List Char) : Bool :=
  let second := (cs.drop 6).takeWhile (· != '.')
  let part := (cs.drop 6).dropWhile (· != '.')
  isMinuteTime (cs.take 5) && cs[5]? == some ':' && (digits? 2 second).any (· ≤ 60) &&
    (part.isEmpty || (part.tail != [] && part.tail.all isAsciiDigit))

/-- Whether a text is a date, a time, or both with a letter or a blank between them and maybe an
offset behind them. -/
private def isDateTime (cs : List Char) : Bool :=
  isDate cs || isTime cs ||
    (isDate (cs.take 10) && (cs[10]?).any (fun c => "Tt ".toList.contains c) &&
      let time := (cs.drop 11).takeWhile (fun c => isAsciiDigit c || c == ':' || c == '.')
      let offset := (cs.drop 11).drop time.length
      isTime time &&
        (offset.isEmpty || offset == ['Z'] || offset == ['z'] ||
          ((signed offset).1.isSome && isMinuteTime (signed offset).2)))

/-- Characters of numbers and times. -/
private def inNumber (c : Char) : Bool := c.isAlphanum || "+-.:_".toList.contains c

/-- Reads a number or a time. A time may follow its date behind a blank. -/
private def number : Reader Node := do
  let first ← takeRun inNumber
  let behind ← get
  let token ←
    match behind with
    | ' ' :: c :: _ => do
      if isDate first && isAsciiDigit c then
        skip
        pure (first ++ ' ' :: (← takeRun inNumber))
      else pure first
    | _ => pure first
  if isDateTime token then return .dateTime (String.ofList token)
  match integer? token, float? token with
  | some n, _ => return .integer n
  | none, some x => return .float x
  | none, none => refuse

/-! ## Keys and values -/

/-- Characters of a key without quotes. -/
private def inBareKey (c : Char) : Bool := c.isAlphanum || c == '_' || c == '-'

/-- Reads one part of a key. -/
private def keyPart : Reader String := do
  match ← get with
  | '"' :: rest => set rest; oneLine '"' true (rest.length + 1) []
  | '\'' :: rest => set rest; oneLine '\'' false (rest.length + 1) []
  | _ =>
    let name ← takeRun inBareKey
    if name.isEmpty then refuse else return String.ofList name

/-- Reads a key with dots between its parts. -/
private def dottedKey : (fuel : Nat) → Reader (List String)
  | 0 => refuse
  | fuel + 1 => do
    skipBlanks
    let part ← keyPart
    skipBlanks
    if ← skipIf ['.'] then return part :: (← dottedKey fuel) else return [part]

/-- How many arrays and tables in braces may stand inside each other, and how many parts a key may
have. -/
def maxDepth : Nat := 79

/-- Reads a key. -/
private def key : Reader (List String) := do
  let path ← dottedKey (← get).length
  if path.length ≤ maxDepth then return path else refuse

mutual

/-- Reads a value. -/
private def value : (fuel depth : Nat) → Reader Node
  | 0, _ => refuse
  | fuel + 1, depth => do
    match ← peek? with
    | none => refuse
    | some '"' => skip; return .string (← stringBody '"')
    | some '\'' => skip; return .string (← stringBody '\'')
    | some 't' => expect ['t', 'r', 'u', 'e']; return .bool true
    | some 'f' => expect ['f', 'a', 'l', 's', 'e']; return .bool false
    | some '[' =>
      if depth = 0 then refuse
      skip
      return .array (← arrayItems fuel (depth - 1))
    | some '\x7b' =>
      if depth = 0 then refuse
      skip
      skipBlanks
      let lines ← if ← skipIf ['\x7d'] then pure [] else braceLines fuel (depth - 1)
      match tableOf lines with
      | none => refuse
      | some entries => return .table .braces entries
    | some _ => number

/-- Reads the items of an array up to its closing bracket; a comma may stand behind the last. -/
private def arrayItems : (fuel depth : Nat) → Reader (List Node)
  | 0, _ => refuse
  | fuel + 1, depth => do
    skipLines ((← get).length + 1)
    if ← skipIf [']'] then return []
    let item ← value fuel depth
    skipLines ((← get).length + 1)
    if ← skipIf [','] then return item :: (← arrayItems fuel depth)
    expect [']']
    return [item]

/-- Reads the lines of a table in braces up to the closing one; no comma may stand behind the
last. -/
private def braceLines : (fuel depth : Nat) → Reader (List Line)
  | 0, _ => refuse
  | fuel + 1, depth => do
    let line ← assignment fuel depth
    skipBlanks
    if ← skipIf [','] then return line :: (← braceLines fuel depth)
    expect ['\x7d']
    return [line]

/-- Reads a key and its value. -/
private def assignment : (fuel depth : Nat) → Reader Line
  | 0, _ => refuse
  | fuel + 1, depth => do
    let path ← key
    expect ['=']
    skipBlanks
    let node ← value fuel depth
    match path.getLast? with
    | none => refuse
    | some name => return .assignment path.dropLast name node

end

/-! ## Documents -/

/-- Reads a header behind its first bracket. -/
private def header : Reader Line := do
  let another ← skipIf ['[']
  let path ← key
  expect (if another then [']', ']'] else [']'])
  return if another then .arrayHeader path else .header path

/-- Reads the lines of a document. -/
private def lines : (fuel : Nat) → Reader (List Line)
  | 0 => refuse
  | fuel + 1 => do
    skipLines ((← get).length + 1)
    match ← get with
    | [] => return []
    | '[' :: rest =>
      set rest
      let line ← header
      lineEnd
      return line :: (← lines fuel)
    | cs =>
      let line ← assignment (3 * cs.length) maxDepth
      lineEnd
      return line :: (← lines fuel)

/-- The root table of a document; a byte order mark in front of it does not count. -/
def ofText? (text : String) : Option Table := do
  let cs := text.toList
  let cs := if cs.head? = some '\ufeff' then cs.tail else cs
  let (found, rest) ← (lines (cs.length + 1)).run cs
  if rest.isEmpty then tableOf found else none

end NoteQuery.Toml
