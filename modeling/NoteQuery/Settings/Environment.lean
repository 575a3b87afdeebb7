import NoteQuery.Entries
import NoteQuery.Unicode.Class

/-! # Environments

Named texts from outside of the program, and the file format that adds to them: lines of the form
`NAME=value`. A value may be quoted, may go on over several lines inside of quotes, and may refer to
other names with a dollar sign. The first line that does not fit ends the file: those before it
count. Names that are already there keep their values.
-/

namespace NoteQuery

/-- Named texts. -/
abbrev Environment := Entries String

namespace Environment

open NoteQuery.Unicode

/-! ## Lines -/

/-- Where a scan for the end of a line stands. -/
inductive Quoting where
  | plain
  /-- Behind a blank, where a comment may start. -/
  | blank
  /-- Behind a backslash. -/
  | escape
  | single
  | singleEscape
  | double
  | doubleEscape
deriving DecidableEq, Repr

/-- The state behind a character. -/
def Quoting.step (q : Quoting) (c : Char) : Quoting :=
  let opened : Quoting :=
    if c = '\\' then escape else if c = '"' then double else if c = '\'' then single else plain
  match q with
  | plain => if isBlank c && c != '\n' && c != '\r' then blank else opened
  | blank => opened
  | escape => plain
  | single => if c = '\\' then singleEscape else if c = '\'' then plain else single
  | singleEscape => single
  | double => if c = '\\' then doubleEscape else if c = '"' then plain else double
  | doubleEscape => double

/-- What a scan over a stretch of text ends with. -/
inductive Scan where
  | state (q : Quoting)
  /-- A comment starts behind this text. -/
  | comment (before : List Char)

/-- Scans a stretch of text; `done` is the text so far, last character first. -/
def scan (q : Quoting) (done : List Char) : List Char → Scan
  | [] => .state q
  | c :: cs =>
    if q = .blank ∧ c = '#' then .comment done.reverse else scan (q.step c) (c :: done) cs

/-- The stretches of a text up to and with each line feed. -/
def stretches : List Char → List (List Char)
  | [] => []
  | c :: cs =>
    if c = '\n' then [c] :: stretches cs
    else
      match stretches cs with
      | [] => [[c]]
      | stretch :: rest => (c :: stretch) :: rest

/-- A text without the line feed at its end, or the line feed and the carriage return before it. -/
def withoutLineEnd (cs : List Char) : List Char :=
  match cs.reverse with
  | '\n' :: '\r' :: before => before.reverse
  | '\n' :: before => before.reverse
  | _ => cs

/-- The lines that stretches of text form: a line goes on while a quote is open or a blank has just
been passed. A line that is not finished at the end of the text is dropped. -/
def linesOf (buffer : List Char) (q : Quoting) : List (List Char) → List (List Char)
  | [] => []
  | stretch :: rest =>
    let whole := buffer ++ stretch
    if (whole.dropWhile isBlank).head? = some '#' then [] :: linesOf [] .plain rest
    else
      match scan q [] stretch with
      | .comment before => (buffer ++ before) :: linesOf [] .plain rest
      | .state .plain => withoutLineEnd whole :: linesOf [] .plain rest
      | .state q => linesOf whole q rest

/-! ## Values -/

/-- Where the reader of a value stands; `quoted` tells whether it is between double quotes. -/
inductive Reading where
  | plain (quoted : Bool)
  | single
  /-- Behind a backslash. -/
  | escape (quoted : Bool)
  /-- In a name behind a dollar sign; its letters are given last first. -/
  | name (quoted : Bool) (letters : List Char)
  /-- In a name in braces behind a dollar sign. -/
  | bracedName (quoted : Bool) (letters : List Char)
  /-- Behind a blank that ends the value. -/
  | ended

/-- Value of a name whose letters are given last first; it is empty if the name is not there. -/
def valueOf (env : Environment) (letters : List Char) : List Char :=
  ((env.find? (String.ofList letters.reverse)).getD "").toList

/-- Reads a value; `done` is what has been read, last character first. -/
def readValue (env : Environment) : Reading → (done : List Char) → List Char → Option (List Char)
  | .plain quoted, done, [] => if quoted then none else some done.reverse
  | .single, _, [] => none
  | .escape quoted, done, [] => if quoted then none else some done.reverse
  | .name quoted letters, done, [] =>
    if quoted then none else some (done.reverse ++ valueOf env letters)
  | .bracedName _ _, _, [] => none
  | .ended, done, [] => some done.reverse
  | .plain true, done, c :: cs =>
    if c = '$' then readValue env (.name true []) done cs
    else if c = '"' then readValue env (.plain false) done cs
    else if c = '\\' then readValue env (.escape true) done cs
    else readValue env (.plain true) (c :: done) cs
  | .plain false, done, c :: cs =>
    if c = '$' then readValue env (.name false []) done cs
    else if c = '\'' then readValue env .single done cs
    else if c = '"' then readValue env (.plain true) done cs
    else if c = '\\' then readValue env (.escape false) done cs
    else if c = ' ' ∨ c = '\t' then readValue env .ended done cs
    else readValue env (.plain false) (c :: done) cs
  | .single, done, c :: cs =>
    if c = '\'' then readValue env (.plain false) done cs else readValue env .single (c :: done) cs
  | .escape quoted, done, c :: cs =>
    if c = 'n' then readValue env (.plain quoted) ('\n' :: done) cs
    else if ['\\', '\'', '"', '$', ' '].contains c then
      readValue env (.plain quoted) (c :: done) cs
    else none
  | .name quoted letters, done, c :: cs =>
    if isAlphanumeric c then readValue env (.name quoted (c :: letters)) done cs
    else if c = '\x7b' ∧ letters = [] then readValue env (.bracedName quoted []) done cs
    else
      let done := (valueOf env letters).reverse ++ done
      if c = '$' then readValue env (.name quoted []) done cs
      else readValue env (.plain quoted) (c :: done) cs
  | .bracedName quoted letters, done, c :: cs =>
    if c = '\x7d' then readValue env (.plain quoted) ((valueOf env letters).reverse ++ done) cs
    else readValue env (.bracedName quoted (c :: letters)) done cs
  | .ended, done, c :: cs =>
    if c = ' ' ∨ c = '\t' then readValue env .ended done cs
    else if c = '#' then some done.reverse
    else none

/-! ## Files -/

/-- Reads a name and drops the white space behind it. -/
def readName (cs : List Char) : Option (List Char × List Char) :=
  let inName (c : Char) : Bool := c.isAlphanum || c == '_' || c == '.'
  match cs with
  | [] => none
  | c :: _ =>
    if c.isAlpha || c == '_' then
      some (cs.takeWhile inName, (cs.dropWhile inName).dropWhile isBlank)
    else none

/-- Reads an equals sign and drops the white space behind it. -/
def readEquals : List Char → Option (List Char)
  | '=' :: cs => some (cs.dropWhile isBlank)
  | _ => none

/-- Reads a line: `some none` if it is blank or a comment, `none` if it does not fit. The word
`export` may stand in front of the name. -/
def readLine (env : Environment) (line : List Char) : Option (Option (String × String)) :=
  match trim line with
  | [] => some none
  | '#' :: _ => some none
  | cs => do
    let (name, rest) ← readName cs
    let (name, rest) ←
      match readEquals rest with
      | some rest => some (name, rest)
      | none =>
        if name = "export".toList then
          (readName rest).bind (fun (name, rest) => (readEquals rest).map (name, ·))
        else none
    let value ←
      match rest with
      | [] => some []
      | '#' :: _ => some []
      | cs => readValue env (.plain false) [] cs
    return some (String.ofList name, String.ofList value)

/-- The environment with the values of lines, up to the first one that does not fit. -/
def addLines (env : Environment) : List (List Char) → Environment
  | [] => env
  | line :: lines =>
    match readLine env line with
    | none => env
    | some none => addLines env lines
    | some (some (name, value)) =>
      addLines (if (env.find? name).isSome then env else env.put name value) lines

/-- The environment with the values of a file; a byte order mark in front does not count. -/
def addFile (env : Environment) (text : String) : Environment :=
  let cs := text.toList
  let cs := if cs.head? = some '\ufeff' then cs.tail else cs
  env.addLines (linesOf [] .plain (stretches cs))

end Environment

end NoteQuery
