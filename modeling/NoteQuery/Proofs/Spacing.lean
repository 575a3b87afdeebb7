import NoteQuery.Proofs.Boundaries
import NoteQuery.Proofs.QueryText

/-!
# Words between blanks

A word in front of a blank, or at the end of the text, is read as one token of its kind and its text
(`Word.IsLexeme`), and so a text of such words is read word by word (`readsAs_text`). Every word of
a written query is of this sort (`Clause.isLexeme_of_mem_words`).
-/

namespace NoteQuery

open Text Unicode

/-- A token without its place. -/
def Token.word (t : Token) : QueryText.Word := ⟨t.kind, t.text⟩

namespace QueryText

/-! ## Reading word by word -/

/-- A blank follows, or nothing. -/
def EndsWord (rest : List Char) : Prop := ∀ c ∈ rest.head?, c = ' '

/-- The words are the tokens of a text in front of its end, wherever the text starts. -/
def ReadsAs (cs : List Char) (ws : List Word) : Prop :=
  ∀ offset, ∃ tokens finish, Lexer.tokensFrom offset cs = .ok (tokens ++ [finish]) ∧
    finish.kind = .endOfText ∧ tokens.map Token.word = ws

/-- A word that is read as one token. -/
structure Word.IsLexeme (w : Word) : Prop where
  exists_scan : ∃ c cs, w.text.toList = c :: cs ∧ isBlank c = false ∧
    ∀ rest, EndsWord rest → Lexer.scan c (cs ++ rest) = .ok ⟨w.kind, c :: cs, rest⟩

/-- The blank between two words. -/
def Word.blank : Word := ⟨.blank, " "⟩

/-- Words, each behind a blank. -/
def spaced (ws : List Word) : List Word := ws.flatMap (fun w => [.blank, w])

/-- The text of words, each behind a blank. -/
def spacedText (ws : List Word) : List Char := ws.flatMap (fun w => ' ' :: w.text.toList)

theorem readsAs_nil : ReadsAs [] [] := by
  intro offset
  refine ⟨[], ⟨.endOfText, "", offset⟩, ?_, rfl, rfl⟩
  rw [Lexer.tokensFrom]
  rfl

theorem ReadsAs.cons {c : Char} {cs : List Char} {l : Lexer.Lexeme} {ws : List Word}
    (hscans : Lexer.Scans c cs l) (h : ReadsAs l.rest ws) :
    ReadsAs (c :: cs) (⟨l.kind, String.ofList l.text⟩ :: ws) := by
  intro offset
  obtain ⟨tokens, finish, htokens, hfinish, hwords⟩ := h (l.token offset).stop
  refine ⟨l.token offset :: tokens, finish, ?_, hfinish, by rw [List.map_cons, hwords]; rfl⟩
  rw [Lexer.tokensFrom_cons hscans, htokens]
  rfl

theorem endsWord_spacedText (ws : List Word) : EndsWord (spacedText ws) := by
  intro c hc
  cases ws with
  | nil => cases hc
  | cons w ws => exact (Option.some.inj hc).symm

theorem ReadsAs.word {w : Word} (hw : w.IsLexeme) {rest : List Char} (hrest : EndsWord rest)
    {ws : List Word} (h : ReadsAs rest ws) : ReadsAs (w.text.toList ++ rest) (w :: ws) := by
  obtain ⟨c, cs, htext, -, hscan⟩ := hw.exists_scan
  have hcons := ReadsAs.cons (Lexer.scans_of_scan (hscan rest hrest)) h
  have htext' : String.ofList (c :: cs) = w.text := by rw [← htext, String.ofList_toList]
  rw [htext, List.cons_append]
  rw [htext'] at hcons
  exact hcons

theorem ReadsAs.blank {w : Word} (hw : w.IsLexeme) {rest : List Char} {ws : List Word}
    (h : ReadsAs (w.text.toList ++ rest) ws) :
    ReadsAs (' ' :: (w.text.toList ++ rest)) (.blank :: ws) := by
  obtain ⟨c, cs, htext, hblank, -⟩ := hw.exists_scan
  have hspace : isBlank ' ' = true := by decide
  have hscans : Lexer.Scans ' ' (w.text.toList ++ rest) _ := .blank hspace
  have hrun : Lexer.run .blank isBlank (' ' :: (w.text.toList ++ rest)) =
      ⟨.blank, [' '], w.text.toList ++ rest⟩ := by
    rw [Lexer.run, htext]
    simp [hspace, hblank]
  rw [hrun] at hscans
  exact ReadsAs.cons hscans h

theorem readsAs_spacedText {ws : List Word} (h : ∀ w ∈ ws, w.IsLexeme) :
    ReadsAs (spacedText ws) (spaced ws) := by
  induction ws with
  | nil => exact readsAs_nil
  | cons w ws ih =>
    have hw := h w (List.mem_cons_self ..)
    have hrest := ih (fun v hv => h v (List.mem_cons_of_mem w hv))
    exact (ReadsAs.word hw (endsWord_spacedText ws) hrest).blank hw

/-- A word that is read as one token in some text is read so in front of a blank. -/
theorem isLexeme_of_scans {w : Word} {c : Char} {cs front rest : List Char}
    (htext : w.text.toList = c :: cs) (hkind : w.kind ≠ .blank) (hblank : isBlank c = false)
    (h : Lexer.Scans c front ⟨w.kind, c :: cs, rest⟩) : w.IsLexeme := by
  refine ⟨c, cs, htext, hblank, fun other hother => ?_⟩
  have hends : ∀ d ∈ other.head?, w.kind.EndsBefore (c :: cs) d := by
    intro d hd
    obtain rfl := hother d hd
    exact TokenKind.endsBefore_of_isBlank hkind (by decide) _
  obtain ⟨tail, htail, hscans⟩ := h.exchange hends
  obtain ⟨-, rfl⟩ := List.cons.inj htail
  exact hscans.scan_eq

/-! ## Identifiers -/

/-- Whether a text is an identifier from end to end. -/
def isIdentifier : List Char → Bool
  | [] => false
  | c :: cs => Lexer.startsName c && cs.all Lexer.continuesName

theorem isLexeme_identifier {text : String} (h : isIdentifier text.toList = true) :
    Word.IsLexeme ⟨.identifier, text⟩ := by
  cases htext : text.toList with
  | nil =>
    rw [htext] at h
    cases h
  | cons c cs =>
    rw [htext, isIdentifier, Bool.and_eq_true, List.all_eq_true] at h
    obtain ⟨hc, hcs⟩ := h
    have hcontinues : ∀ d ∈ c :: cs, Lexer.continuesName d = true :=
      List.forall_mem_cons.2 ⟨Lexer.continuesName_of_startsName hc, hcs⟩
    have hscans : Lexer.Scans c cs _ := .identifier hc
    rw [Lexer.run, List.takeWhile_eq_self_iff.2 hcontinues] at hscans
    exact isLexeme_of_scans htext nofun
      (isBlank_of_continuesName (hcontinues c (List.mem_cons_self ..)))
      hscans

theorem Name.isLexeme_word (n : Name) : n.word.IsLexeme := by
  apply isLexeme_identifier
  rw [Name.text, String.toList_ofList, isIdentifier, n.startsName, Bool.true_and, List.all_eq_true]
  exact n.continuesName

/-- The words of the language. -/
def keywords : List String :=
  ["where", "and", "order", "by", "asc", "desc", "limit", "select", "render", "in", "true", "false",
    "null"]

theorem isLexeme_keyword {text : String} (h : text ∈ keywords) : (Word.keyword text).IsLexeme := by
  have hall : ∀ text ∈ keywords, isIdentifier text.toList = true := by decide
  exact isLexeme_identifier (hall text h)

/-! ## Numerals -/

theorem Numeral.isLexeme_word (n : Numeral) : n.word.IsLexeme := by
  obtain ⟨negative, whole, fraction, hwhole, hfraction⟩ := n
  obtain ⟨d, ds, rfl⟩ := List.exists_cons_of_ne_nil hwhole.ne_nil
  have hd := hwhole.isAsciiDigit_of_mem d (List.mem_cons_self ..)
  have hnone : ∀ c ∈ ([] : List Char).head?, isAsciiDigit c = false ∧ c ≠ '.' := by simp
  have hnumeral := Lexer.numeral_append_other hwhole.isAsciiDigit_of_mem hfraction hnone
  rw [List.append_nil] at hnumeral
  cases negative with
  | true =>
    have hscans : Lexer.Scans '-' (d :: (ds ++ fraction.elim [] (fun digits => '.' :: digits))) _ :=
      .negative hd
    rw [Lexer.signedNumeral, ← List.cons_append, hnumeral] at hscans
    exact isLexeme_of_scans String.toList_ofList (by rintro ⟨⟩) (by decide) hscans
  | false =>
    have hscans : Lexer.Scans d (ds ++ fraction.elim [] (fun digits => '.' :: digits)) _ :=
      .number hd
    rw [Lexer.signedNumeral, ← List.cons_append, hnumeral] at hscans
    exact isLexeme_of_scans String.toList_ofList (by rintro ⟨⟩) (isBlank_of_isAsciiDigit hd) hscans

theorem Count.isLexeme_word (c : Count) : c.word.IsLexeme := by
  have h := (Numeral.mk false c.digits none c.isDigits nofun).isLexeme_word
  rw [Numeral.word, Numeral.toList, if_neg Bool.false_ne_true, Option.elim_none, List.nil_append,
    List.append_nil] at h
  exact h

/-! ## Delimited words -/

theorem closedBy_append_close {close : Char} {oneLine : Bool} {body : List Char}
    (hbody : ∀ c ∈ body, c ≠ close ∧ c ≠ '\\' ∧ (oneLine = true → c ≠ '\n')) (rest : List Char) :
    Lexer.closedBy close oneLine (body ++ close :: rest) = some (body ++ [close], rest) := by
  induction body with
  | nil =>
    rw [List.nil_append]
    unfold Lexer.closedBy
    exact if_pos rfl
  | cons c body ih =>
    obtain ⟨hclose, hescape, hline⟩ := hbody c (List.mem_cons_self ..)
    have hrest := ih (fun d hd => hbody d (List.mem_cons_of_mem c hd))
    have hline : ¬ (c = '\n' ∧ oneLine = true) := fun h => hline h.2 h.1
    rw [List.cons_append]
    unfold Lexer.closedBy
    rw [if_neg hclose, if_neg hescape, if_neg hline, hrest]
    rfl

theorem Quoted.isLexeme_word (q : Quoted) : q.word.IsLexeme := by
  have hblank : isBlank q.quote = false := by
    rcases q.isQuote with h | h <;> rw [h] <;> decide
  have hbody : ∀ c ∈ q.body, c ≠ q.quote ∧ c ≠ '\\' ∧ (false = true → c ≠ '\n') :=
    fun c hc => ⟨(q.isPlain c hc).1, (q.isPlain c hc).2, nofun⟩
  exact isLexeme_of_scans String.toList_ofList nofun hblank
    (.string q.isQuote (closedBy_append_close hbody []))

theorem Regex.isLexeme_word (r : Regex) : r.word.IsLexeme := by
  have hbody : ∀ c ∈ r.body, c ≠ '/' ∧ c ≠ '\\' ∧ (true = true → c ≠ '\n') :=
    fun c hc => ⟨(r.isPlain c hc).1, (r.isPlain c hc).2.1, fun _ => (r.isPlain c hc).2.2⟩
  exact isLexeme_of_scans String.toList_ofList nofun (by decide)
    (.regex (closedBy_append_close hbody []))

theorem closedByBrackets_append_brackets {body : List Char} (hline : '\n' ∉ body)
    (hopen : ¬ [']', ']'] <:+: body) (hlast : ∀ c ∈ body.getLast?, c ≠ ']') (rest : List Char) :
    Lexer.closedByBrackets (body ++ ']' :: ']' :: rest) = some (body ++ [']', ']'], rest) := by
  induction body with
  | nil => rfl
  | cons c body ih =>
    have hcline : c ≠ '\n' := fun he => hline (by rw [he]; exact List.mem_cons_self ..)
    have hopen' : ¬ [']', ']'] <:+: body :=
      fun h => hopen (h.trans (List.suffix_cons c body).isInfix)
    have hrest :
        Lexer.closedByBrackets (body ++ ']' :: ']' :: rest) = some (body ++ [']', ']'], rest) := by
      refine ih (fun h => hline (List.mem_cons_of_mem c h)) hopen' (fun d hd => hlast d ?_)
      cases body with
      | nil => cases hd
      | cons e body => rwa [List.getLast?_cons_cons]
    rw [List.cons_append, Lexer.closedByBrackets]
    · rw [if_neg hcline, hrest]
      rfl
    · -- a bracket here would be the last character, or one of two
      rintro cs rfl heq
      cases body with
      | nil => exact hlast ']' rfl rfl
      | cons d body =>
        obtain rfl := (List.cons.inj heq).1
        exact hopen ⟨[], body, rfl⟩

theorem PageName.isLexeme_word (p : PageName) : p.word.IsLexeme :=
  isLexeme_of_scans String.toList_ofList nofun (by decide)
    (.pageRef (closedByBrackets_append_brackets p.not_mem_newline p.not_closed p.last_ne []))

/-! ## Operators, brackets and commas -/

theorem isLexeme_operator {text : String} {c : Char} {cs : List Char}
    (htext : text.toList = c :: cs) (hc : c = '=' ∨ c = '!' ∨ c = '<' ∨ c = '>')
    (hoperator : Lexer.operator c cs = .ok ⟨.operator, c :: cs, []⟩) :
    Word.IsLexeme ⟨.operator, text⟩ := by
  have hblank : isBlank c = false := by rcases hc with rfl | rfl | rfl | rfl <;> decide
  exact isLexeme_of_scans htext nofun hblank (.operator hc hoperator)

theorem isLexeme_comparisonWord (c : Comparison) : (comparisonWord c).IsLexeme := by
  cases c with
  | isIn => exact isLexeme_keyword (by decide)
  | _ => exact isLexeme_operator rfl (by decide) rfl

theorem isLexeme_leftBracket : Word.leftBracket.IsLexeme := by
  have hscans : Lexer.Scans '[' [] _ := .leftBracket nofun
  exact isLexeme_of_scans rfl nofun (by decide) hscans

theorem isLexeme_rightBracket : Word.rightBracket.IsLexeme :=
  ⟨']', [], rfl, by decide, fun _ _ => rfl⟩

theorem isLexeme_comma : Word.comma.IsLexeme := ⟨',', [], rfl, by decide, fun _ _ => rfl⟩

/-! ## Words of queries -/

namespace Operand

mutual

theorem isLexeme_of_mem_words (o : Operand) : ∀ w ∈ o.words, w.IsLexeme := by
  match o with
  | numeral n => exact List.forall_mem_singleton.2 n.isLexeme_word
  | bool true => exact List.forall_mem_singleton.2 (isLexeme_keyword (by decide))
  | bool false => exact List.forall_mem_singleton.2 (isLexeme_keyword (by decide))
  | null => exact List.forall_mem_singleton.2 (isLexeme_keyword (by decide))
  | name n _ => exact List.forall_mem_singleton.2 n.isLexeme_word
  | quoted q => exact List.forall_mem_singleton.2 q.isLexeme_word
  | regex r => exact List.forall_mem_singleton.2 r.isLexeme_word
  | page p => exact List.forall_mem_singleton.2 p.isLexeme_word
  | list [] =>
    rw [words, List.forall_mem_cons, List.forall_mem_singleton]
    exact ⟨isLexeme_leftBracket, isLexeme_rightBracket⟩
  | list (item :: items) =>
    rw [words, List.forall_mem_cons, List.forall_mem_append, List.forall_mem_append,
      List.forall_mem_singleton]
    exact ⟨isLexeme_leftBracket, item.isLexeme_of_mem_words, isLexeme_of_mem_furtherWords items,
      isLexeme_rightBracket⟩

theorem isLexeme_of_mem_furtherWords (items : List Operand) :
    ∀ w ∈ furtherWords items, w.IsLexeme := by
  match items with
  | [] =>
    rw [furtherWords]
    nofun
  | item :: items =>
    rw [furtherWords, List.forall_mem_cons, List.forall_mem_append]
    exact ⟨isLexeme_comma, item.isLexeme_of_mem_words, isLexeme_of_mem_furtherWords items⟩

end

end Operand

theorem Target.isLexeme_word (t : Target) : t.word.IsLexeme := by
  cases t with
  | page p => exact p.isLexeme_word
  | quoted q => exact q.isLexeme_word

theorem Clause.isLexeme_of_mem_words (c : Clause) : ∀ w ∈ c.words, w.IsLexeme := by
  cases c with
  | filter connective field comparison operand =>
    rw [words, List.forall_mem_cons, List.forall_mem_cons, List.forall_mem_cons]
    refine ⟨?_, field.isLexeme_word, isLexeme_comparisonWord comparison,
      operand.isLexeme_of_mem_words⟩
    cases connective <;> exact isLexeme_keyword (by decide)
  | order field direction =>
    rw [words, List.forall_mem_cons, List.forall_mem_cons, List.forall_mem_cons]
    refine ⟨isLexeme_keyword (by decide), isLexeme_keyword (by decide), field.isLexeme_word, ?_⟩
    intro w hw
    obtain ⟨d, -, rfl⟩ := List.mem_map.1 hw
    cases d <;> exact isLexeme_keyword (by decide)
  | limit count =>
    rw [words, List.forall_mem_cons, List.forall_mem_singleton]
    exact ⟨isLexeme_keyword (by decide), count.isLexeme_word⟩
  | select first further =>
    rw [words, List.forall_mem_cons, List.forall_mem_cons]
    refine ⟨isLexeme_keyword (by decide), first.isLexeme_word, ?_⟩
    intro w hw
    obtain ⟨n, -, hw⟩ := List.mem_flatMap.1 hw
    rcases List.mem_pair.1 hw with rfl | rfl
    · exact isLexeme_comma
    · exact n.isLexeme_word
  | render target =>
    rw [words, List.forall_mem_cons, List.forall_mem_singleton]
    exact ⟨isLexeme_keyword (by decide), target.isLexeme_word⟩

/-- A written query is read word by word. -/
theorem readsAs_text (q : QueryText) :
    ReadsAs q.text.toList (q.table.word :: spaced (q.clauses.flatMap Clause.words)) := by
  have hwords : ∀ w ∈ q.clauses.flatMap Clause.words, w.IsLexeme := by
    intro w hw
    obtain ⟨c, -, hw⟩ := List.mem_flatMap.1 hw
    exact c.isLexeme_of_mem_words w hw
  have htext : q.text.toList =
      q.table.word.text.toList ++ spacedText (q.clauses.flatMap Clause.words) := by
    rw [text, words, List.map_cons, toList_joinWith, spacedText, List.flatMap_map]
    rfl
  rw [htext]
  exact ReadsAs.word q.table.isLexeme_word (endsWord_spacedText _) (readsAs_spacedText hwords)

end QueryText

end NoteQuery
