import NoteQuery.Text.Basic

/-! # Arguments

What a command line asks for. Options may stand anywhere behind the command, with their value in the
same argument or in the next one; short options may share an argument. Behind two hyphens no
argument is an option. No option may be given twice, and no path may be empty.
-/

namespace NoteQuery.CommandLine

open NoteQuery.Text

/-- What to do with evaluated documents. -/
structure EvaluationMode where
  /-- Write them back. -/
  write : Bool
  /-- Show what changes instead of the documents. -/
  diff : Bool
deriving DecidableEq, Repr, Inhabited

/-- A command. -/
inductive Command where
  /-- Answer one query. -/
  | query (text : String) (data : Option String)
  /-- Evaluate documents. -/
  | evaluate (paths : List String) (data : Option String) (mode : EvaluationMode)
  /-- Blank out the directives of a document. -/
  | scrub (path : String)
deriving DecidableEq, Repr

/-- A command with what holds for all of them. -/
structure Request where
  /-- Directory of the settings, unless it is the working directory. -/
  directory : Option String
  command : Command
deriving DecidableEq, Repr

/-! ## Options -/

/-- An option. -/
inductive Switch where
  | config | data | write | diff
deriving DecidableEq, Repr

namespace Switch

/-- Whether the option has a value. -/
def takesValue : Switch → Bool
  | config | data => true
  | write | diff => false

/-- The option with a long name. -/
def ofName? (name : List Char) : Option Switch :=
  if name = "config".toList then some config
  else if name = "data".toList then some data
  else if name = "write".toList then some write
  else if name = "diff".toList then some diff
  else none

/-- The option with a letter. -/
def ofLetter? (letter : Char) : Option Switch :=
  if letter = 'd' then some data else if letter = 'w' then some write else none

end Switch

/-- Options that have been given, with their values. -/
abbrev Given := List (Switch × String)

/-- The value of an option. -/
def valueOf? (switch : Switch) (given : Given) : Option String :=
  (given.find? (fun entry => entry.1 == switch)).map (·.2)

/-- Whether an option has been given. -/
def isGiven (switch : Switch) (given : Given) : Bool := (valueOf? switch given).isSome

/-- Adds an option that has a value. -/
def giveValue (given : Given) (switch : Switch) (value : String) : Option Given :=
  if isGiven switch given || value.isEmpty then none else some ((switch, value) :: given)

/-- Adds an option that has none. -/
def giveFlag (given : Given) (switch : Switch) : Option Given :=
  if isGiven switch given then none else some ((switch, "") :: given)

/-- Whether an argument can only be an option. -/
def looksLikeOption (argument : String) : Bool :=
  argument.toList.head? == some '-' && argument != "-"

/-- Takes the value of an option from the next argument. -/
def takeValue (given : Given) (switch : Switch) : List String → Option (Given × List String)
  | [] => none
  | value :: rest =>
    if looksLikeOption value then none else (giveValue given switch value).map (·, rest)

/-- Reads an option with a long name, behind its hyphens. -/
def readLong (allowed : Switch → Bool) (given : Given) (cs : List Char) (rest : List String) :
    Option (Given × List String) := do
  let name := cs.takeWhile (· != '=')
  let switch ← (Switch.ofName? name).filter allowed
  match cs.drop name.length with
  | [] =>
    if switch.takesValue then takeValue given switch rest else (giveFlag given switch).map (·, rest)
  | _ :: value =>
    if switch.takesValue then (giveValue given switch (String.ofList value)).map (·, rest) else none

/-- Reads options with letters, behind their hyphen. -/
def readLetters (allowed : Switch → Bool) (given : Given) (rest : List String) :
    List Char → Option (Given × List String)
  | [] => some (given, rest)
  | letter :: cs => do
    let switch ← (Switch.ofLetter? letter).filter allowed
    if switch.takesValue then
      match cs with
      | [] => takeValue given switch rest
      | '=' :: value => (giveValue given switch (String.ofList value)).map (·, rest)
      | value => (giveValue given switch (String.ofList value)).map (·, rest)
    else
      let given ← giveFlag given switch
      readLetters allowed given rest cs

/-- Reads an argument that looks like an option. -/
def readOption (allowed : Switch → Bool) (given : Given) (argument : String) (rest : List String) :
    Option (Given × List String) :=
  match argument.toList with
  | '-' :: '-' :: cs => readLong allowed given cs rest
  | '-' :: cs => readLetters allowed given rest cs
  | _ => none

/-! ## Command lines -/

/-- Reads the arguments behind a command: its options, and the others in order. -/
def readOperands (allowed : Switch → Bool) :
    (fuel : Nat) → Given → List String → Option (Given × List String)
  | _, given, [] => some (given, [])
  | 0, _, _ :: _ => none
  | fuel + 1, given, argument :: rest =>
    if argument = "--" then some (given, rest)
    else if looksLikeOption argument then do
      let (given, rest) ← readOption allowed given argument rest
      readOperands allowed fuel given rest
    else do
      let (given, others) ← readOperands allowed fuel given rest
      return (given, argument :: others)

/-- The command with a name, its options and its operands. -/
def commandOf? (name : String) (given : Given) (operands : List String) : Option Command :=
  let data := valueOf? .data given
  match name, operands with
  | "query", [text] => some (.query text data)
  | "eval", paths =>
    if paths.isEmpty || paths.any String.isEmpty then none
    else some (.evaluate paths data ⟨isGiven .write given, isGiven .diff given⟩)
  | "scrub", [path] => if path.isEmpty then none else some (.scrub path)
  | _, _ => none

/-- Options that a command may have. -/
def allowedFor (name : String) (switch : Switch) : Bool :=
  match switch with
  | .config => true
  | .data => name == "query" || name == "eval"
  | .write | .diff => name == "eval"

/-- Reads the command and what stands in front of it, where only the directory of the settings may
be given. If it is given behind the command too, that one counts. -/
def readCommand : (fuel : Nat) → Given → List String → Option Request
  | 0, _, _ => none
  | _, _, [] => none
  | fuel + 1, before, argument :: rest =>
    if looksLikeOption argument then do
      let (before, rest) ← readOption (· == .config) before argument rest
      readCommand fuel before rest
    else do
      let (given, operands) ← readOperands (allowedFor argument) rest.length [] rest
      let command ← commandOf? argument given operands
      return { directory := (valueOf? .config given).or (valueOf? .config before), command }

/-- What a command line asks for, if it is well formed. -/
def request? (arguments : List String) : Option Request :=
  readCommand (arguments.length + 1) [] arguments

end NoteQuery.CommandLine
