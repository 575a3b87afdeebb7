import NoteQuery.Json.Basic
import NoteQuery.Text.Basic
import NoteQuery.Unicode.Class

/-! # Reading JSON

A strict reader: no comments, no trailing commas, no leading noughts, no raw control characters in
strings, no half of a surrogate pair, and at most 127 brackets inside each other.

Numbers that are no 64-bit integers are read in two roundings. The digits form a 64-bit
significand, further digits only move the exponent; the significand is rounded to binary64 and then
multiplied or divided by the power of ten, itself rounded.
-/

namespace NoteQuery.Json

open NoteQuery.Text NoteQuery.Unicode

/-- Deepest nesting of arrays and objects. -/
def maxDepth : Nat := 127

/-- The text without leading blanks. -/
def skipBlanks : List Char → List Char :=
  List.dropWhile (fun c => c == ' ' || c == '\n' || c == '\t' || c == '\r')

/-! ## Numbers -/

/-- Largest significand. -/
private def maxSignificand : Nat := twoTo 64 - 1

/-- Digits taken into a significand as long as it fits, with the digits that did not. -/
private def takeDigits : (significand : Nat) → List Char → Nat × List Char
  | significand, [] => (significand, [])
  | significand, c :: cs =>
    let next := significand * 10 + digitValue c
    if next ≤ maxSignificand then takeDigits next cs else (significand, c :: cs)

/-- The significand times a power of ten, rounded twice; `none` when the number is too large.
Powers below the smallest one of the format are divided out in two steps. -/
private def scaled? (negative : Bool) (significand : Nat) (exponent : Int) : Option Binary64 :=
  let x := Binary64.ofRatio negative significand 1
  let power (n : Nat) : Binary64 := Binary64.ofDecimal false 1 n
  if x.isZero then some x
  else if 308 < exponent then none
  else if 0 ≤ exponent then
    let y := x.mulRounded (power exponent.toNat)
    if y.isFinite then some y else none
  else if -308 ≤ exponent then some (x.divRounded (power (-exponent).toNat))
  else
    let y := x.divRounded (power 308)
    let rest := (-exponent).toNat - 308
    if y.isZero then some y
    else if rest ≤ 308 then some (y.divRounded (power rest))
    else some (Binary64.zero negative)

/-- Reads an exponent after its letter: its value and the rest. -/
private def readPower? (cs : List Char) : Option (Int × List Char) :=
  let (negative, cs) :=
    match cs with
    | '-' :: cs => (true, cs)
    | '+' :: cs => (false, cs)
    | cs => (false, cs)
  let (digits, rest) := cs.span isAsciiDigit
  if digits.isEmpty then none
  else some (if negative then -(decimalValue digits : Int) else decimalValue digits, rest)

/-- Largest exponent that is read as a number. -/
private def maxPower : Nat := twoTo 31 - 1

/-- Finishes a number that is no integer, at its exponent part if there is one. -/
private def finishReal? (negative : Bool) (significand : Nat) (exponent : Int) (cs : List Char) :
    Option (JsonNumber × List Char) :=
  match cs with
  | 'e' :: rest | 'E' :: rest => do
    let (power, rest) ← readPower? rest
    if (maxPower : Int) < power.natAbs then
      if significand != 0 && 0 < power then none
      else some (.real (Binary64.zero negative), rest)
    else
      let x ← scaled? negative significand (exponent + power)
      some (.real x, rest)
  | _ => (scaled? negative significand exponent).map (fun x => (.real x, cs))

/-- Reads the digits after a point and what may follow them. -/
private def readFraction? (negative : Bool) (significand : Nat) (exponent : Int) (cs : List Char) :
    Option (JsonNumber × List Char) :=
  let (digits, rest) := cs.span isAsciiDigit
  if digits.isEmpty then none
  else
    let (significand', dropped) := takeDigits significand digits
    finishReal? negative significand' (exponent - (digits.length - dropped.length : Nat)) rest

/-- An integer that stands without point and exponent. -/
private def wholeNumber (negative : Bool) (significand : Nat) : JsonNumber :=
  if !negative then .integer significand
  else if significand = 0 ∨ twoTo 63 < significand then
    .real (Binary64.ofRatio true significand 1)
  else .integer (-(significand : Int))

/-- Reads a number after its sign. -/
private def readNumber? (negative : Bool) (cs : List Char) : Option (JsonNumber × List Char) :=
  let (digits, rest) := cs.span isAsciiDigit
  if digits.isEmpty then none
  else if digits.head? = some '0' ∧ 1 < digits.length then none
  else
    let (significand, dropped) := takeDigits 0 digits
    match rest with
    | '.' :: rest => readFraction? negative significand dropped.length rest
    | 'e' :: _ | 'E' :: _ => finishReal? negative significand dropped.length rest
    | _ =>
      if dropped.isEmpty then some (wholeNumber negative significand, rest)
      else finishReal? negative significand dropped.length rest

/-! ## Strings -/

/-- Reads four hexadecimal digits. -/
private def readUnit? : List Char → Option (Nat × List Char)
  | a :: b :: c :: d :: rest =>
    if [a, b, c, d].all (fun x => (hexDigit? x).isSome) then some (hexValue [a, b, c, d], rest)
    else none
  | _ => none

/-- Reads what follows a backslash and `u`: one unit, or the two units of a surrogate pair. -/
private def readUnicodeEscape? (cs : List Char) : Option (Char × List Char) := do
  let (unit, rest) ← readUnit? cs
  if 0xdc00 ≤ unit ∧ unit ≤ 0xdfff then none
  else if 0xd800 ≤ unit ∧ unit ≤ 0xdbff then
    match rest with
    | '\\' :: 'u' :: rest =>
      let (second, rest) ← readUnit? rest
      if 0xdc00 ≤ second ∧ second ≤ 0xdfff then
        let c ← charOfCode? (0x10000 + (unit - 0xd800) * 0x400 + (second - 0xdc00))
        some (c, rest)
      else none
    | _ => none
  else do
    let c ← charOfCode? unit
    some (c, rest)

/-- The character that a letter after a backslash stands for. -/
private def simpleEscape? (c : Char) : Option Char :=
  if c = '"' ∨ c = '\\' ∨ c = '/' then some c
  else if c = 'b' then some '\x08'
  else if c = 'f' then some '\x0c'
  else if c = 'n' then some '\n'
  else if c = 'r' then some '\r'
  else if c = 't' then some '\t'
  else none

/-- Reads a string after its opening quote, with `fuel` for its characters. -/
private def readStringBody? : (fuel : Nat) → List Char → Option (List Char × List Char)
  | 0, _ => none
  | _ + 1, [] => none
  | _ + 1, '"' :: rest => some ([], rest)
  | fuel + 1, '\\' :: 'u' :: rest => do
    let (c, rest) ← readUnicodeEscape? rest
    let (cs, rest) ← readStringBody? fuel rest
    some (c :: cs, rest)
  | fuel + 1, '\\' :: e :: rest => do
    let c ← simpleEscape? e
    let (cs, rest) ← readStringBody? fuel rest
    some (c :: cs, rest)
  | fuel + 1, c :: rest =>
    if c.toNat < 0x20 ∨ c = '\\' then none
    else do
      let (cs, rest) ← readStringBody? fuel rest
      some (c :: cs, rest)

/-- Reads a string after its opening quote. -/
private def readString? (cs : List Char) : Option (String × List Char) :=
  (readStringBody? (cs.length + 1) cs).map (fun (body, rest) => (String.ofList body, rest))

/-! ## Trees

Every call below reads at least one character or goes from a tree to its parts, so twice the length
of the text is enough fuel. -/

mutual

/-- Reads a tree; `depth` more brackets may open. -/
private def readTree? : (fuel depth : Nat) → List Char → Option (Json × List Char)
  | 0, _, _ => none
  | fuel + 1, depth, cs =>
    match skipBlanks cs with
    | 'n' :: 'u' :: 'l' :: 'l' :: rest => some (null, rest)
    | 't' :: 'r' :: 'u' :: 'e' :: rest => some (bool true, rest)
    | 'f' :: 'a' :: 'l' :: 's' :: 'e' :: rest => some (bool false, rest)
    | '"' :: rest => do
      let (s, rest) ← readString? rest
      some (string s, rest)
    | '[' :: rest =>
      if depth = 0 then none
      else
        match skipBlanks rest with
        | ']' :: rest => some (array [], rest)
        | rest => readItems? fuel (depth - 1) [] rest
    | '\x7b' :: rest =>
      if depth = 0 then none
      else
        match skipBlanks rest with
        | '\x7d' :: rest => some (object [], rest)
        | rest => readMembers? fuel (depth - 1) [] rest
    | '-' :: rest => (readNumber? true rest).map (fun (n, rest) => (number n, rest))
    | rest => (readNumber? false rest).map (fun (n, rest) => (number n, rest))

/-- Reads the items of an array after those already read, which are given last first. -/
private def readItems? : (fuel depth : Nat) → List Json → List Char → Option (Json × List Char)
  | 0, _, _, _ => none
  | fuel + 1, depth, done, cs => do
    let (item, rest) ← readTree? fuel depth cs
    match skipBlanks rest with
    | ',' :: rest => readItems? fuel depth (item :: done) rest
    | ']' :: rest => some (array (item :: done).reverse, rest)
    | _ => none

/-- Reads the members of an object after those already read. -/
private def readMembers? : (fuel depth : Nat) → List (String × Json) → List Char →
    Option (Json × List Char)
  | 0, _, _, _ => none
  | fuel + 1, depth, done, cs =>
    match skipBlanks cs with
    | '"' :: rest => do
      let (key, rest) ← readString? rest
      match skipBlanks rest with
      | ':' :: rest =>
        let (value, rest) ← readTree? fuel depth rest
        let members := Entries.put key value done
        match skipBlanks rest with
        | ',' :: rest => readMembers? fuel depth members rest
        | '\x7d' :: rest => some (object members, rest)
        | _ => none
      | _ => none
    | _ => none

end

/-- The tree that a text spells, if the whole text spells one. -/
def ofText? (text : String) : Option Json := do
  let (tree, rest) ← readTree? (2 * text.length + 2) maxDepth text.toList
  if (skipBlanks rest).isEmpty then some tree else none

end NoteQuery.Json
