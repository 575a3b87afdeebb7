import NoteQuery.Query.Error
import NoteQuery.Token.Basic
import NoteQuery.Unicode.Class

/-! # Lexer

`tokenize` cuts a text into tokens. Each token is read by `scan`, which looks at the first character
and at most one more to choose a reader; a reader returns the text of the token and the rest. The
token's text followed by the rest is always what was read (`scan_append`), and it is never empty
(`scan_ne_nil`), so cutting ends.
-/

namespace NoteQuery

open NoteQuery.Unicode

namespace Lexer

/-- A token's kind and text with the text behind it. -/
structure Lexeme where
  kind : TokenKind
  text : List Char
  rest : List Char
deriving Repr

/-! ## Characters -/

/-- Characters that start an identifier. -/
def startsName (c : Char) : Bool :=
  isAlphabetic c || c == '_' || c == '$'

/-- Characters that continue an identifier. -/
def continuesName (c : Char) : Bool :=
  isAlphanumeric c || c == '_' || c == '$' || c == '-' || c == '.'

/-! ## Readers -/

/-- The longest run of characters of a class. -/
def run (kind : TokenKind) (p : Char → Bool) (cs : List Char) : Lexeme :=
  ⟨kind, cs.takeWhile p, cs.dropWhile p⟩

/-- Cuts behind the first `close` that no backslash precedes. On one line only when `oneLine`: then
a line end that no backslash precedes comes too early. -/
def closedBy (close : Char) (oneLine : Bool) : List Char → Option (List Char × List Char)
  | [] => none
  | c :: cs =>
    if c = close then some ([c], cs)
    else if c = '\\' then
      match cs with
      | [] => none
      | d :: ds => (closedBy close oneLine ds).map (fun (text, rest) => (c :: d :: text, rest))
    else if c = '\n' ∧ oneLine then none
    else (closedBy close oneLine cs).map (fun (text, rest) => (c :: text, rest))

/-- Cuts behind the first pair of closing brackets on the line. -/
def closedByBrackets : List Char → Option (List Char × List Char)
  | [] => none
  | ']' :: ']' :: cs => some ([']', ']'], cs)
  | c :: cs =>
    if c = '\n' then none
    else (closedByBrackets cs).map (fun (text, rest) => (c :: text, rest))

/-- A literal from its opening delimiter on. -/
def literal (kind : TokenKind) (noun : Delimited) (opening : List Char)
    (closed : Option (List Char × List Char)) : Except LexicalError Lexeme :=
  match closed with
  | some (text, rest) => .ok ⟨kind, opening ++ text, rest⟩
  | none => .error (.unterminated noun)

/-- Digits with at most one point between digits. -/
def numeral (cs : List Char) : List Char × List Char :=
  let (whole, rest) := (cs.takeWhile isAsciiDigit, cs.dropWhile isAsciiDigit)
  match rest with
  | '.' :: d :: rest' =>
    if isAsciiDigit d then
      (whole ++ '.' :: (d :: rest').takeWhile isAsciiDigit, (d :: rest').dropWhile isAsciiDigit)
    else (whole, rest)
  | _ => (whole, rest)

/-- A number behind an optional minus sign. -/
def signedNumeral (sign cs : List Char) : Lexeme :=
  ⟨.number, sign ++ (numeral cs).1, (numeral cs).2⟩

/-- An operator, the longest one that the text begins with. -/
def operator (c : Char) (cs : List Char) : Except LexicalError Lexeme :=
  match c, cs with
  | '=', '~' :: rest => .ok ⟨.operator, ['=', '~'], rest⟩
  | '!', '=' :: '~' :: rest => .ok ⟨.operator, ['!', '=', '~'], rest⟩
  | '!', '=' :: rest => .ok ⟨.operator, ['!', '='], rest⟩
  | '!', _ => .error .loneBang
  | '<', '=' :: rest => .ok ⟨.operator, ['<', '='], rest⟩
  | '>', '=' :: rest => .ok ⟨.operator, ['>', '='], rest⟩
  | c, rest => .ok ⟨.operator, [c], rest⟩

/-- Whether the text goes on with a digit. -/
def digitFollows : List Char → Bool
  | [] => false
  | c :: _ => isAsciiDigit c

/-- The token at the front of a text that begins with `c`. -/
def scan (c : Char) (cs : List Char) : Except LexicalError Lexeme :=
  if isBlank c then .ok (run .blank isBlank (c :: cs))
  else if c = '"' ∨ c = '\'' then literal .string .string [c] (closedBy c false cs)
  else if c = '/' then literal .regex .regex [c] (closedBy '/' true cs)
  else if c = '[' then
    match cs with
    | '[' :: rest => literal .pageRef .pageReference ['[', '['] (closedByBrackets rest)
    | _ => .ok ⟨.leftBracket, [c], cs⟩
  else if c = ']' then .ok ⟨.rightBracket, [c], cs⟩
  else if c = ',' then .ok ⟨.comma, [c], cs⟩
  else if c = '=' ∨ c = '!' ∨ c = '<' ∨ c = '>' then operator c cs
  else if c = '-' ∧ digitFollows cs then .ok (signedNumeral [c] cs)
  else if isAsciiDigit c then .ok (signedNumeral [] (c :: cs))
  else if startsName c then .ok (run .identifier continuesName (c :: cs))
  else .error (.unexpected c)

/-! ## Nothing is lost -/

theorem closedBy_append {close : Char} {oneLine : Bool} {cs text rest : List Char}
    (h : closedBy close oneLine cs = some (text, rest)) : text ++ rest = cs := by
  fun_induction closedBy close oneLine cs generalizing text rest with
  | case1 => simp at h
  | case2 cs => simp only [Option.some.injEq, Prod.mk.injEq] at h; simp [← h.1, ← h.2]
  | case3 => simp at h
  | case4 _ d ds ih =>
    simp only [Option.map_eq_some_iff, Prod.mk.injEq, Prod.exists] at h
    obtain ⟨t, r, hc, rfl, rfl⟩ := h
    simp [ih hc]
  | case5 => simp at h
  | case6 c cs _ _ _ ih =>
    simp only [Option.map_eq_some_iff, Prod.mk.injEq, Prod.exists] at h
    obtain ⟨t, r, hc, rfl, rfl⟩ := h
    simp [ih hc]

theorem closedByBrackets_append {cs text rest : List Char}
    (h : closedByBrackets cs = some (text, rest)) : text ++ rest = cs := by
  fun_induction closedByBrackets cs generalizing text rest with
  | case1 => simp at h
  | case2 cs => simp only [Option.some.injEq, Prod.mk.injEq] at h; simp [← h.1, ← h.2]
  | case3 => simp at h
  | case4 c cs _ _ ih =>
    simp only [Option.map_eq_some_iff, Prod.mk.injEq, Prod.exists] at h
    obtain ⟨t, r, hc, rfl, rfl⟩ := h
    simp [ih hc]

theorem literal_append {kind : TokenKind} {noun : Delimited} {opening cs : List Char}
    {closed : Option (List Char × List Char)} {l : Lexeme}
    (hc : ∀ text rest, closed = some (text, rest) → text ++ rest = cs)
    (h : literal kind noun opening closed = .ok l) : l.text ++ l.rest = opening ++ cs := by
  unfold literal at h
  split at h
  · rename_i text rest
    injection h with h
    subst h
    simp [hc text rest rfl]
  · simp at h

theorem numeral_append (cs : List Char) : (numeral cs).1 ++ (numeral cs).2 = cs := by
  have hsplit := List.takeWhile_append_dropWhile (p := isAsciiDigit) (l := cs)
  simp only [numeral]
  split
  · rename_i d rest' hrest
    split
    · rw [hrest] at hsplit
      have hfraction := List.takeWhile_append_dropWhile (p := isAsciiDigit) (l := d :: rest')
      rw [List.append_assoc, List.cons_append, hfraction, hsplit]
    · exact hsplit
  · exact hsplit

theorem operator_append {c : Char} {cs : List Char} {l : Lexeme} (h : operator c cs = .ok l) :
    l.text ++ l.rest = c :: cs := by
  unfold operator at h
  split at h <;> first
    | (injection h with h; subst h; rfl)
    | simp at h

/-- A token's text and the rest are what was read. -/
theorem scan_append {c : Char} {cs : List Char} {l : Lexeme} (h : scan c cs = .ok l) :
    l.text ++ l.rest = c :: cs := by
  unfold scan at h
  split at h
  · injection h with h; subst h; exact List.takeWhile_append_dropWhile
  split at h
  · exact literal_append (fun _ _ => closedBy_append) h
  split at h
  · exact literal_append (fun _ _ => closedBy_append) h
  split at h
  · rename_i hc
    split at h
    · subst hc; exact literal_append (fun _ _ => closedByBrackets_append) h
    · injection h with h; subst h; rfl
  split at h
  · injection h with h; subst h; rfl
  split at h
  · injection h with h; subst h; rfl
  split at h
  · exact operator_append h
  split at h
  · injection h with h; subst h
    simp [signedNumeral, numeral_append]
  split at h
  · injection h with h; subst h
    simp [signedNumeral, numeral_append]
  split at h
  · injection h with h; subst h; exact List.takeWhile_append_dropWhile
  · simp at h

/-! ## Every token has a character -/

theorem literal_ne_nil {kind : TokenKind} {noun : Delimited} {opening : List Char}
    {closed : Option (List Char × List Char)} {l : Lexeme} (ho : opening ≠ [])
    (h : literal kind noun opening closed = .ok l) : l.text ≠ [] := by
  unfold literal at h
  split at h
  · injection h with h; subst h; simp [ho]
  · simp at h

theorem run_ne_nil {kind : TokenKind} {p : Char → Bool} {c : Char} {cs : List Char}
    (hc : p c = true) : (run kind p (c :: cs)).text ≠ [] := by
  simp [run, hc]

theorem numeral_ne_nil {c : Char} {cs : List Char} (hc : isAsciiDigit c = true) :
    (numeral (c :: cs)).1 ≠ [] := by
  simp only [numeral, List.takeWhile_cons, hc, if_true]
  split
  · split <;> simp
  · simp

theorem operator_ne_nil {c : Char} {cs : List Char} {l : Lexeme} (h : operator c cs = .ok l) :
    l.text ≠ [] := by
  unfold operator at h
  split at h <;> first
    | (injection h with h; subst h; simp)
    | simp at h

theorem continuesName_of_startsName {c : Char} (h : startsName c = true) :
    continuesName c = true := by
  simp only [startsName, continuesName, isAlphanumeric, Bool.or_eq_true] at h ⊢
  rcases h with (h | h) | h <;> simp [h]

/-- A token's text is not empty. -/
theorem scan_ne_nil {c : Char} {cs : List Char} {l : Lexeme} (h : scan c cs = .ok l) :
    l.text ≠ [] := by
  unfold scan at h
  split at h
  · rename_i hc
    injection h with h; subst h; exact run_ne_nil hc
  split at h
  · exact literal_ne_nil (by simp) h
  split at h
  · exact literal_ne_nil (by simp) h
  split at h
  · split at h
    · exact literal_ne_nil (by simp) h
    · injection h with h; subst h; simp
  split at h
  · injection h with h; subst h; simp
  split at h
  · injection h with h; subst h; simp
  split at h
  · exact operator_ne_nil h
  split at h
  · injection h with h; subst h; simp [signedNumeral]
  split at h
  · rename_i hc
    injection h with h; subst h; simpa [signedNumeral] using numeral_ne_nil hc
  split at h
  · rename_i hc
    injection h with h; subst h; exact run_ne_nil (continuesName_of_startsName hc)
  · simp at h

theorem length_rest_lt {c : Char} {cs : List Char} {l : Lexeme} (h : scan c cs = .ok l) :
    l.rest.length < (c :: cs).length := by
  rw [← scan_append h, List.length_append]
  have := List.length_pos_iff.2 (scan_ne_nil h)
  omega

/-! ## Whole texts -/

/-- Tokens of a text that starts at a byte offset, with the end of the text as the last one. -/
def tokensFrom (offset : Nat) (cs : List Char) : Except ParseError (List Token) :=
  match cs with
  | [] => .ok [⟨.endOfText, "", offset⟩]
  | c :: cs =>
    match h : scan c cs with
    | .error cause => .error (.lexical cause offset)
    | .ok lexeme => do
      have := length_rest_lt h
      let token : Token := ⟨lexeme.kind, String.ofList lexeme.text, offset⟩
      let tokens ← tokensFrom token.stop lexeme.rest
      return token :: tokens
termination_by cs.length
decreasing_by simp only [List.length_cons] at *; omega

end Lexer

/-- Tokens of a text; the last one is the end of the text. -/
def tokenize (source : String) : Except ParseError (List Token) :=
  Lexer.tokensFrom 0 source.toList

end NoteQuery
