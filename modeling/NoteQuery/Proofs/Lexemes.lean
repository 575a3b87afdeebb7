import NoteQuery.Query.Basic
import NoteQuery.Token.Lexer
import Mathlib.Data.List.TakeWhile

/-!
# Texts of tokens

What the lexer promises to the stages behind it: the text of a token has the form of its kind
(`TokenKind.Admits`), and the end of the text is the last token and no other (`WellRead`).
-/

namespace NoteQuery

open Unicode Lexer

/-- At least one decimal digit. -/
structure IsDigits (cs : List Char) : Prop where
  ne_nil : cs ≠ []
  isAsciiDigit_of_mem : ∀ c ∈ cs, isAsciiDigit c = true

/-- The sign of a number, if it has one. -/
def IsSign (cs : List Char) : Prop := cs = [] ∨ cs = ['-']

/-- Digits behind a sign, with at most one point between digits. -/
inductive IsNumeral : List Char → Prop
  | whole {sign digits : List Char} (hsign : IsSign sign) (hdigits : IsDigits digits) :
    IsNumeral (sign ++ digits)
  | decimal {sign digits fraction : List Char} (hsign : IsSign sign) (hdigits : IsDigits digits)
    (hfraction : IsDigits fraction) : IsNumeral (sign ++ (digits ++ '.' :: fraction))

/-- The texts that tokens of a kind can have. -/
def TokenKind.Admits : TokenKind → List Char → Prop
  | identifier, cs => cs ≠ [] ∧ ∀ c ∈ cs, continuesName c = true
  | number, cs => IsNumeral cs
  | string, cs => ∃ quote body, (quote = '"' ∨ quote = '\'') ∧ cs = quote :: (body ++ [quote])
  | regex, cs => ∃ body, cs = '/' :: (body ++ ['/'])
  | pageRef, cs => ∃ body, cs = '[' :: '[' :: (body ++ [']', ']'])
  | operator, cs => ∃ comparison : Comparison, cs = comparison.symbol.toList
  | leftBracket, cs => cs = ['[']
  | rightBracket, cs => cs = [']']
  | comma, cs => cs = [',']
  | blank, cs => cs ≠ [] ∧ ∀ c ∈ cs, isBlank c = true
  | endOfText, cs => cs = []

/-- A run of a class ends where another character follows. -/
theorem takeWhile_dropWhile_append {p : Char → Bool} {front rest : List Char}
    (hfront : ∀ c ∈ front, p c = true) (hrest : ∀ c ∈ rest.head?, p c = false) :
    (front ++ rest).takeWhile p = front ∧ (front ++ rest).dropWhile p = rest := by
  have hstop : rest.takeWhile p = [] ∧ rest.dropWhile p = rest := by
    cases rest with
    | nil => exact ⟨rfl, rfl⟩
    | cons c rest => simp [hrest c rfl]
  rw [List.takeWhile_append_of_pos hfront, List.dropWhile_append_of_pos hfront, hstop.1, hstop.2,
    List.append_nil]
  exact ⟨rfl, rfl⟩

namespace Lexer

/-! ## Delimited literals -/

theorem exists_of_closedBy {close : Char} {oneLine : Bool} {cs text rest : List Char}
    (h : closedBy close oneLine cs = some (text, rest)) : ∃ body, text = body ++ [close] := by
  fun_induction closedBy close oneLine cs generalizing text rest with
  | case1 => simp at h
  | case2 cs =>
    obtain ⟨rfl, rfl⟩ := Prod.mk.inj (Option.some.inj h)
    exact ⟨[], rfl⟩
  | case3 => simp at h
  | case4 _ d ds ih =>
    obtain ⟨⟨inner, rest'⟩, hinner, he⟩ := Option.map_eq_some_iff.1 h
    obtain ⟨rfl, rfl⟩ := Prod.mk.inj he
    obtain ⟨body, rfl⟩ := ih hinner
    exact ⟨_ :: _ :: body, rfl⟩
  | case5 => simp at h
  | case6 c cs _ _ _ ih =>
    obtain ⟨⟨inner, rest'⟩, hinner, he⟩ := Option.map_eq_some_iff.1 h
    obtain ⟨rfl, rfl⟩ := Prod.mk.inj he
    obtain ⟨body, rfl⟩ := ih hinner
    exact ⟨c :: body, rfl⟩

theorem exists_of_closedByBrackets {cs text rest : List Char}
    (h : closedByBrackets cs = some (text, rest)) : ∃ body, text = body ++ [']', ']'] := by
  fun_induction closedByBrackets cs generalizing text rest with
  | case1 => simp at h
  | case2 cs =>
    obtain ⟨rfl, rfl⟩ := Prod.mk.inj (Option.some.inj h)
    exact ⟨[], rfl⟩
  | case3 => simp at h
  | case4 c cs _ _ ih =>
    obtain ⟨⟨inner, rest'⟩, hinner, he⟩ := Option.map_eq_some_iff.1 h
    obtain ⟨rfl, rfl⟩ := Prod.mk.inj he
    obtain ⟨body, rfl⟩ := ih hinner
    exact ⟨c :: body, rfl⟩

theorem exists_of_literal {kind : TokenKind} {noun : Delimited} {opening : List Char}
    {closed : Option (List Char × List Char)} {l : Lexeme}
    (h : literal kind noun opening closed = .ok l) :
    ∃ text rest, closed = some (text, rest) ∧ l = ⟨kind, opening ++ text, rest⟩ := by
  unfold literal at h
  split at h
  · rename_i text rest
    exact ⟨text, rest, rfl, (Except.ok.inj h).symm⟩
  · cases h

/-! ## Numbers -/

theorem isDigits_takeWhile {c : Char} (hc : isAsciiDigit c = true) (cs : List Char) :
    IsDigits ((c :: cs).takeWhile isAsciiDigit) where
  ne_nil := by simp [hc]
  isAsciiDigit_of_mem _ h := List.mem_takeWhile_imp h

theorem isNumeral_numeral {sign : List Char} (hsign : IsSign sign) {c : Char}
    (hc : isAsciiDigit c = true) (cs : List Char) : IsNumeral (sign ++ (numeral (c :: cs)).1) := by
  have hwhole := isDigits_takeWhile hc cs
  unfold numeral
  dsimp only
  split
  · rename_i d rest hrest
    split
    · rename_i hd
      exact .decimal hsign hwhole (isDigits_takeWhile hd rest)
    · exact .whole hsign hwhole
  · exact .whole hsign hwhole

/-! ## Operators -/

theorem exists_of_operator {c : Char} {cs : List Char} {l : Lexeme}
    (hc : c = '=' ∨ c = '!' ∨ c = '<' ∨ c = '>') (h : operator c cs = .ok l) :
    l.kind = .operator ∧ ∃ comparison : Comparison, l.text = comparison.symbol.toList := by
  unfold operator at h
  split at h
  · obtain rfl := Except.ok.inj h
    exact ⟨rfl, .matching, rfl⟩
  · obtain rfl := Except.ok.inj h
    exact ⟨rfl, .notMatching, rfl⟩
  · obtain rfl := Except.ok.inj h
    exact ⟨rfl, .notEqual, rfl⟩
  · cases h
  · obtain rfl := Except.ok.inj h
    exact ⟨rfl, .lessOrEqual, rfl⟩
  · obtain rfl := Except.ok.inj h
    exact ⟨rfl, .greaterOrEqual, rfl⟩
  -- the character alone; `!` alone is refused above
  · rename_i hbang _ _ _ _ _
    obtain rfl := Except.ok.inj h
    rcases hc with rfl | rfl | rfl | rfl
    · exact ⟨rfl, .equal, rfl⟩
    · exact absurd rfl hbang
    · exact ⟨rfl, .less, rfl⟩
    · exact ⟨rfl, .greater, rfl⟩

/-! ## Tokens -/

/-- What a token is at the front of a text that begins with `c`. -/
inductive Scans : (c : Char) → List Char → Lexeme → Prop
  | blank {c cs} (hc : isBlank c = true) : Scans c cs (run .blank isBlank (c :: cs))
  | string {c cs text rest} (hc : c = '"' ∨ c = '\'')
    (hclosed : closedBy c false cs = some (text, rest)) :
    Scans c cs ⟨.string, c :: text, rest⟩
  | regex {cs text rest} (hclosed : closedBy '/' true cs = some (text, rest)) :
    Scans '/' cs ⟨.regex, '/' :: text, rest⟩
  | pageRef {cs text rest} (hclosed : closedByBrackets cs = some (text, rest)) :
    Scans '[' ('[' :: cs) ⟨.pageRef, '[' :: '[' :: text, rest⟩
  | leftBracket {cs} (hcs : ∀ d ∈ cs.head?, d ≠ '[') : Scans '[' cs ⟨.leftBracket, ['['], cs⟩
  | rightBracket {cs} : Scans ']' cs ⟨.rightBracket, [']'], cs⟩
  | comma {cs} : Scans ',' cs ⟨.comma, [','], cs⟩
  | operator {c cs l} (hc : c = '=' ∨ c = '!' ∨ c = '<' ∨ c = '>') (h : operator c cs = .ok l) :
    Scans c cs l
  | negative {d cs} (hd : isAsciiDigit d = true) :
    Scans '-' (d :: cs) (signedNumeral ['-'] (d :: cs))
  | number {c cs} (hc : isAsciiDigit c = true) : Scans c cs (signedNumeral [] (c :: cs))
  | identifier {c cs} (hc : startsName c = true) :
    Scans c cs (run .identifier continuesName (c :: cs))

theorem scans_of_scan {c : Char} {cs : List Char} {l : Lexeme} (h : scan c cs = .ok l) :
    Scans c cs l := by
  unfold scan at h
  split at h
  · rename_i hc
    obtain rfl := Except.ok.inj h
    exact .blank hc
  split at h
  · rename_i hc
    obtain ⟨text, rest, hclosed, rfl⟩ := exists_of_literal h
    exact .string hc hclosed
  split at h
  · rename_i hc
    subst hc
    obtain ⟨text, rest, hclosed, rfl⟩ := exists_of_literal h
    exact .regex hclosed
  split at h
  · rename_i hc
    subst hc
    split at h
    · obtain ⟨text, rest, hclosed, rfl⟩ := exists_of_literal h
      exact .pageRef hclosed
    · rename_i hopen
      obtain rfl := Except.ok.inj h
      refine .leftBracket ?_
      rintro d hd rfl
      obtain ⟨more, rfl⟩ := List.head?_eq_some_iff.1 hd
      exact hopen more rfl
  split at h
  · rename_i hc
    subst hc
    obtain rfl := Except.ok.inj h
    exact .rightBracket
  split at h
  · rename_i hc
    subst hc
    obtain rfl := Except.ok.inj h
    exact .comma
  split at h
  · rename_i hc
    exact .operator hc h
  split at h
  · rename_i hc
    obtain ⟨rfl, hfollows⟩ := hc
    obtain rfl := Except.ok.inj h
    cases cs with
    | nil => exact absurd hfollows (by simp [digitFollows])
    | cons d cs => exact .negative hfollows
  split at h
  · rename_i hc
    obtain rfl := Except.ok.inj h
    exact .number hc
  split at h
  · rename_i hc
    obtain rfl := Except.ok.inj h
    exact .identifier hc
  · cases h

/-- The text of a token has the form of its kind. -/
theorem admits_of_scan {c : Char} {cs : List Char} {l : Lexeme} (h : scan c cs = .ok l) :
    l.kind.Admits l.text := by
  cases scans_of_scan h with
  | blank hc => exact ⟨run_ne_nil hc, fun d hd => List.mem_takeWhile_imp hd⟩
  | string hc hclosed =>
    obtain ⟨body, rfl⟩ := exists_of_closedBy hclosed
    exact ⟨c, body, hc, rfl⟩
  | regex hclosed =>
    obtain ⟨body, rfl⟩ := exists_of_closedBy hclosed
    exact ⟨body, rfl⟩
  | pageRef hclosed =>
    obtain ⟨body, rfl⟩ := exists_of_closedByBrackets hclosed
    exact ⟨body, rfl⟩
  | leftBracket | rightBracket | comma => rfl
  | operator hc hoperator =>
    obtain ⟨hkind, hsymbol⟩ := exists_of_operator hc hoperator
    rw [hkind]
    exact hsymbol
  | negative hd => exact isNumeral_numeral (.inr rfl) hd _
  | number hc => exact isNumeral_numeral (.inl rfl) hc cs
  | identifier hc =>
    exact ⟨run_ne_nil (continuesName_of_startsName hc), fun d hd => List.mem_takeWhile_imp hd⟩

end Lexer

/-! ## Whole texts -/

/-- Tokens whose texts have the forms of their kinds, and that end with the end of the text, which
is found nowhere else. -/
structure WellRead (tokens : List Token) : Prop where
  admits : ∀ t ∈ tokens, t.kind.Admits t.text.toList
  endsOnce : ∃ init finish, tokens = init ++ [finish] ∧ finish.kind = .endOfText ∧
    ∀ t ∈ init, t.kind ≠ .endOfText

theorem Lexer.wellRead_of_tokensFrom {offset : Nat} {cs : List Char} {tokens : List Token}
    (h : tokensFrom offset cs = .ok tokens) : WellRead tokens := by
  fun_induction tokensFrom offset cs generalizing tokens with
  | case1 offset =>
    obtain rfl := Except.ok.inj h
    constructor
    · intro t ht
      obtain rfl := List.mem_singleton.1 ht
      rfl
    · exact ⟨[], _, rfl, rfl, fun t ht => absurd ht List.not_mem_nil⟩
  | case2 => cases h
  | case3 offset c cs lexeme hscan hlt token =>
    rename_i ih
    obtain ⟨others, hothers, h⟩ := exists_of_bind h
    obtain rfl := Except.ok.inj h
    obtain ⟨hadmits, init, finish, rfl, hfinish, hinit⟩ := ih hothers
    have htoken : token.kind.Admits token.text.toList := by
      show lexeme.kind.Admits (String.ofList lexeme.text).toList
      rw [String.toList_ofList]
      exact admits_of_scan hscan
    constructor
    · intro t ht
      rcases List.mem_cons.1 ht with rfl | ht
      · exact htoken
      · exact hadmits t ht
    · refine ⟨token :: init, finish, rfl, hfinish, fun t ht => ?_⟩
      rcases List.mem_cons.1 ht with rfl | ht
      · intro hkind
        -- only the end of the text has no characters
        have hnil : lexeme.text = [] := by
          have hempty := htoken
          rw [hkind] at hempty
          rw [← String.toList_ofList (l := lexeme.text)]
          exact hempty
        exact scan_ne_nil hscan hnil
      · exact hinit t ht

/-- The tokens of a text are well read. -/
theorem wellRead_of_tokenize {source : String} {tokens : List Token}
    (h : tokenize source = .ok tokens) : WellRead tokens :=
  Lexer.wellRead_of_tokensFrom h

end NoteQuery
