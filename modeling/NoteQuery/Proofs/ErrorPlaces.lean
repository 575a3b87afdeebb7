import NoteQuery.Proofs.Lossless
import NoteQuery.Proofs.Prediction
import NoteQuery.Proofs.Spacing
import NoteQuery.Proofs.TokenRuns

/-!
# Places of grammar errors

A grammar error points at the first token with which the tokens stop to be the beginning of a query:
the tokens in front of it are the beginning of some query text, and with it they are not the
beginning of any tokens that the parser accepts (`exists_refused_token_of_ofSource`).

Reading token by token, a refusal is the end of every reading that comes so far, which is the second
half. For the first half every goal has a word that reaches it (`Goal.word`), so that a query can be
completed from any state by a word for each goal. A text with these words exists because they can
stand between blanks, and because a token is read where another text follows it
(`Lexer.Run.exchange`).
-/

namespace NoteQuery

open QueryText (spaced spacedText ReadsAs)

namespace Syntax

namespace State

/-! ## Refusals -/

theorem run_append (s : State) (front rest : List Token) :
    s.run (front ++ rest) = s.run front >>= fun s' => s'.run rest := by
  induction front generalizing s with
  | nil => rfl
  | cons t front ih =>
    rw [List.cons_append, run, run]
    cases s.step t with
    | ok s' => exact ih s'
    | error what => rfl

theorem read_append_of_ok {s s' : State} {front : List Token} (h : s.run front = .ok s')
    (rest : List Token) : s.read (front ++ rest) = s'.read rest := by
  rw [read, run_append, h]
  rfl

/-- Reading stops at the first token that is refused. -/
theorem exists_of_run_eq_error {s : State} {tokens : List Token} {e : ParseError}
    (h : s.run tokens = .error e) :
    ∃ front t rest s' what, tokens = front ++ t :: rest ∧ s.run front = .ok s' ∧
      s'.step t = .error what ∧ e = expected what (t :: rest) := by
  induction tokens generalizing s with
  | nil => cases h
  | cons t tokens ih =>
    rw [run] at h
    cases hstep : s.step t with
    | ok s' =>
      rw [hstep] at h
      obtain ⟨front, u, rest, s'', what, rfl, hfront, hu, rfl⟩ := ih h
      refine ⟨t :: front, u, rest, s'', what, rfl, ?_, hu, rfl⟩
      rw [run, hstep]
      exact hfront
    | error what =>
      rw [hstep] at h
      exact ⟨[], t, tokens, s, what, rfl, rfl, hstep, (Except.error.inj h).symm⟩

/-- Whatever follows, a refused token stays refused. -/
theorem read_ne_ok_of_prefix {s s' : State} {front : List Token} (hfront : s.run front = .ok s')
    {t : Token} {what : Expectation} (ht : s'.step t = .error what) {tokens : List Token}
    (htokens : front ++ [t] <+: tokens) : s.read tokens ≠ .ok () := by
  obtain ⟨rest, rfl⟩ := htokens
  rw [List.append_assoc, List.singleton_append, read_append_of_ok hfront, read_cons_of_error ht]
  nofun

/-! ## The end of the text -/

theorem behind_eq_none_of_endOfText {t : Token} (ht : t.kind = .endOfText) (goal : Goal) :
    goal.behind t = none := by
  have hname : isName t = false := by simp [isName, ht]
  cases goal <;>
    simp [Goal.behind, Goal.behindValue, isLiteral, isComparison, isTarget, Token.isWord, hname, ht]

/-- The end of the text is refused, or it ends the query. -/
theorem eq_finished_of_step {s s' : State} {t : Token} (ht : t.kind = .endOfText)
    (h : s.step t = .ok s') : s' = finished := by
  have hblank : isBlank t = false := by simp [isBlank, ht]
  cases s with
  | inside goal goals tail =>
    rw [step_inside_of_none hblank (behind_eq_none_of_endOfText ht goal)] at h
    cases h
  | between tail spaced =>
    rw [step, if_neg (Bool.eq_false_iff.1 hblank), if_pos ht] at h
    exact (Except.ok.inj h).symm
  | finished => exact (Except.ok.inj h).symm

/-- The tokens of a text that is not read to the end contain a token that is refused. -/
theorem exists_of_read_eq_error {s : State} {tokens : List Token} (hread : WellRead tokens)
    {e : ParseError} (h : s.read tokens = .error e) :
    ∃ front t rest s' what, tokens = front ++ t :: rest ∧ s.run front = .ok s' ∧
      s'.step t = .error what ∧ e = expected what (t :: rest) := by
  cases hrun : s.run tokens with
  | error e' =>
    rw [read, hrun] at h
    obtain rfl := Except.error.inj h
    exact exists_of_run_eq_error hrun
  | ok s' =>
    -- the end of the text comes last, and has been accepted
    obtain ⟨init, last, rfl, hlast, -⟩ := hread.endsOnce
    rw [run_append] at hrun
    obtain ⟨s₀, -, hlast'⟩ := exists_of_bind hrun
    have hfinished : s' = finished := by
      rw [run] at hlast'
      cases hstep : s₀.step last with
      | error what =>
        rw [hstep] at hlast'
        cases hlast'
      | ok s₁ =>
        rw [hstep] at hlast'
        rw [← Except.ok.inj hlast']
        exact eq_finished_of_step hlast hstep
    rw [read, run_append, hrun, hfinished] at h
    cases h

/-! ## Completing a query -/

end State

/-- A word that reaches the goal. -/
def Goal.word : Goal → QueryText.Word
  | tableName | fieldName => .keyword "x"
  | comparison => QueryText.comparisonWord .equal
  | value | number => ⟨.number, "1"⟩
  | firstItem | afterItem => .rightBracket
  | byWord => .keyword "by"
  | target => ⟨.string, "''"⟩

theorem Goal.isLexeme_word (goal : Goal) : goal.word.IsLexeme := by
  have hnumber : QueryText.Word.IsLexeme ⟨.number, "1"⟩ := by
    have hscans : Lexer.Scans '1' [] _ := .number (by decide)
    exact QueryText.isLexeme_of_scans rfl nofun (by decide) hscans
  have hstring : QueryText.Word.IsLexeme ⟨.string, "''"⟩ := by
    have hscans : Lexer.Scans '\'' ['\''] _ := .string (.inr rfl) rfl
    exact QueryText.isLexeme_of_scans rfl nofun (by decide) hscans
  cases goal with
  | tableName | fieldName => exact QueryText.isLexeme_identifier (by decide)
  | comparison => exact QueryText.isLexeme_comparisonWord .equal
  | value | number => exact hnumber
  | firstItem | afterItem => exact QueryText.isLexeme_rightBracket
  | byWord => exact QueryText.isLexeme_keyword (by decide)
  | target => exact hstring

/-- The word of a goal is not white space, and nothing is needed behind it. -/
theorem Goal.behind_eq_of_word {goal : Goal} {t : Token} (h : t.word = goal.word) :
    isBlank t = false ∧ goal.behind t = some [] := by
  obtain ⟨kind, text, start⟩ := t
  obtain ⟨rfl, rfl⟩ := (QueryText.Word.mk.injEq ..).mp h
  cases goal <;> exact ⟨rfl, rfl⟩

namespace State

/-- Words that complete a query. -/
def words : State → List QueryText.Word
  | inside goal goals _ => (goal :: goals).map Goal.word
  | between _ _ | finished => []

theorem isLexeme_of_mem_words (s : State) : ∀ w ∈ s.words, w.IsLexeme := by
  intro w hw
  cases s with
  | inside goal goals tail =>
    obtain ⟨g, -, rfl⟩ := List.mem_map.1 hw
    exact g.isLexeme_word
  | between _ _ | finished => cases hw

variable {tokens : List Token} {finish : Token}

/-- Behind a word for each goal, white space in front of each, a query may end. -/
theorem read_within (hfinish : finish.kind = .endOfText) (goals : List Goal) (tail : Tail)
    (h : tokens.map Token.word = spaced (goals.map Goal.word)) :
    (within tail goals).read (tokens ++ [finish]) = .ok () := by
  induction goals generalizing tokens with
  | nil =>
    obtain rfl := List.map_eq_nil_iff.1 h
    exact read_between_of_atEnd (by simp [afterBlanks, isBlank, hfinish, atEnd])
  | cons goal goals ih =>
    obtain ⟨b, tokens, rfl, hb, h⟩ := List.map_eq_cons_iff.1 h
    obtain ⟨t, tokens, rfl, ht, h⟩ := List.map_eq_cons_iff.1 h
    have hblank : isBlank b = true := beq_iff_eq.2 (congrArg QueryText.Word.kind hb)
    obtain ⟨hsolid, hbehind⟩ := Goal.behind_eq_of_word ht
    rw [within, List.cons_append, List.cons_append,
      read_cons_of_ok (step_inside_of_isBlank hblank goal goals tail),
      read_cons_of_ok (step_inside_of_some hsolid hbehind goals tail)]
    exact ih h

/-- The words of a state complete the query, also without white space in front of them. -/
theorem read_of_words (hfinish : finish.kind = .endOfText) (s : State)
    (h : tokens.map Token.word = spaced s.words ∨ tokens.map Token.word = (spaced s.words).tail) :
    s.read (tokens ++ [finish]) = .ok () := by
  cases s with
  | inside goal goals tail =>
    rcases h with h | h
    · exact read_within hfinish (goal :: goals) tail h
    · obtain ⟨t, tokens, rfl, ht, h⟩ := List.map_eq_cons_iff.1 h
      obtain ⟨hsolid, hbehind⟩ := Goal.behind_eq_of_word ht
      rw [List.cons_append, read_cons_of_ok (step_inside_of_some hsolid hbehind goals tail)]
      exact read_within hfinish goals tail h
  | between tail spaced =>
    obtain rfl := List.map_eq_nil_iff.1 (h.elim id id)
    exact read_between_of_atEnd (by simp [afterBlanks, isBlank, hfinish, atEnd])
  | finished => exact read_finished _

end State

end Syntax

/-! ## Exchanging the end of a text -/

namespace QueryText

theorem readsAs_tail_spacedText {ws : List Word} (h : ∀ w ∈ ws, w.IsLexeme) :
    ReadsAs (spacedText ws).tail (spaced ws).tail := by
  cases ws with
  | nil => exact readsAs_nil
  | cons w ws =>
    have hrest := readsAs_spacedText (fun v hv => h v (List.mem_cons_of_mem w hv))
    exact ReadsAs.word (h w (List.mem_cons_self ..)) (endsWord_spacedText ws) hrest

/-- Without the white space in front of them, words begin with another character. -/
theorem isBlank_of_mem_tail_spacedText {ws : List Word} (h : ∀ w ∈ ws, w.IsLexeme) :
    ∀ d ∈ (spacedText ws).tail.head?, Unicode.isBlank d = false := by
  intro d hd
  cases ws with
  | nil => cases hd
  | cons w ws =>
    obtain ⟨c, cs, htext, hblank, -⟩ := (h w (List.mem_cons_self ..)).exists_scan
    have htail : (spacedText (w :: ws)).tail = c :: (cs ++ spacedText ws) := by
      rw [spacedText, List.flatMap_cons, List.cons_append, List.tail_cons, htext]
      rfl
    rw [htail] at hd
    obtain rfl := Option.some.inj hd
    exact hblank

end QueryText

/-! ## The place of an error -/

open Syntax

theorem Syntax.exists_program_eq_ok {tokens : List Token} (h : State.start.read tokens = .ok ())
    (size : Nat) : ∃ tree, program size tokens = .ok tree := by
  rw [← map_program_eq_read size] at h
  obtain ⟨tree, htree, -⟩ := exists_of_map h
  exact ⟨tree, htree⟩

/-- Tokens that are accepted one by one are the beginning of a query text. -/
theorem exists_ofSource_eq_ok {source : String} {front rest : List Token} (hrest : rest ≠ [])
    (htokens : tokenize source = .ok (front ++ rest)) {s : State}
    (hfront : State.start.run front = .ok s) :
    ∃ source' more tree, tokenize source' = .ok (front ++ more) ∧
      Tree.ofSource source' = .ok tree := by
  have hwords := s.isLexeme_of_mem_words
  -- white space at the end of the front must not join the white space of the completion
  obtain ⟨other, ws, hother, hends, hws⟩ : ∃ other ws, ReadsAs other ws ∧
      (∀ last ∈ front.getLast?, ∀ d ∈ other.head?, last.kind.EndsBefore last.text.toList d) ∧
      (ws = spaced s.words ∨ ws = (spaced s.words).tail) := by
    by_cases hblank : ∃ last ∈ front.getLast?, last.kind = .blank
    · obtain ⟨last, hlast, hkind⟩ := hblank
      refine ⟨_, _, QueryText.readsAs_tail_spacedText hwords, fun last' hlast' d hd => ?_, .inr rfl⟩
      obtain rfl := Option.some.inj (hlast.symm.trans hlast')
      rw [hkind]
      exact QueryText.isBlank_of_mem_tail_spacedText hwords d hd
    · refine ⟨_, _, QueryText.readsAs_spacedText hwords, fun last hlast d hd => ?_, .inl rfl⟩
      obtain rfl := QueryText.endsWord_spacedText s.words d hd
      exact TokenKind.endsBefore_of_isBlank (fun hkind => hblank ⟨last, hlast, hkind⟩) (by decide) _
  obtain ⟨t, after, rfl⟩ := List.exists_cons_of_ne_nil hrest
  obtain ⟨q, -, -, hrun, -, -, -⟩ := Lexer.exists_runs_of_tokensFrom htokens
  have hexchange := (hrun.exchange hends).tokensFrom_eq
  obtain ⟨more, finish, hmore, hfinish, hmap⟩ := hother q.offset
  have htokens' : tokenize (String.ofList (textOf front ++ other)) =
      .ok (front ++ (more ++ [finish])) := by
    rw [tokenize, String.toList_ofList, hexchange, hmore]
    rfl
  have hread : State.start.read (front ++ (more ++ [finish])) = .ok () := by
    rw [State.read_append_of_ok hfront]
    exact s.read_of_words hfinish (hmap ▸ hws)
  obtain ⟨tree, htree⟩ :=
    exists_program_eq_ok hread (String.ofList (textOf front ++ other)).utf8ByteSize
  refine ⟨_, more ++ [finish], tree, htokens', ?_⟩
  rw [Tree.ofSource, htokens']
  exact htree

/-- The wording of a grammar error ends with the place of the token. -/
theorem Syntax.exists_message_expected_eq (what : Expectation) (t : Token) (rest : List Token) :
    ∃ words, (QueryError.parse (expected what (t :: rest))).message =
      words ++ " at offset " ++ toString t.start := by
  have hplace : ∀ text, "Parse error: " ++ atOffset text t.start =
      "Parse error: " ++ text ++ " at offset " ++ toString t.start := by
    intro text
    rw [atOffset, ← String.append_assoc, ← String.append_assoc]
  exact ⟨_, hplace _⟩

/-- If a text has tokens but no syntax tree, the error points at one of its tokens. The tokens in
front of it are the beginning of the tokens of another text, which has a tree, and with it they are
not the beginning of any tokens that the parser accepts. -/
theorem exists_refused_token_of_ofSource {source : String} {tokens : List Token} {e : ParseError}
    (htokens : tokenize source = .ok tokens) (herror : Tree.ofSource source = .error e) :
    ∃ front t rest, tokens = front ++ t :: rest ∧
      (∃ words, (QueryError.parse e).message = words ++ " at offset " ++ toString t.start) ∧
      (∃ source' more tree, tokenize source' = .ok (front ++ more) ∧
        Tree.ofSource source' = .ok tree) ∧
      ∀ tokens', front ++ [t] <+: tokens' → ∀ size tree, program size tokens' ≠ .ok tree := by
  have hprogram : program source.utf8ByteSize tokens = .error e := by
    rw [Tree.ofSource, htokens] at herror
    exact herror
  have hread : State.start.read tokens = .error e := by
    rw [← map_program_eq_read source.utf8ByteSize, hprogram]
    rfl
  obtain ⟨front, t, rest, s, what, rfl, hfront, ht, rfl⟩ :=
    State.exists_of_read_eq_error (wellRead_of_tokenize htokens) hread
  refine ⟨front, t, rest, rfl, exists_message_expected_eq what t rest,
    exists_ofSource_eq_ok (List.cons_ne_nil t rest) htokens hfront,
    fun tokens' hpre size tree htree => ?_⟩
  refine State.read_ne_ok_of_prefix hfront ht hpre ?_
  rw [← map_program_eq_read size, htree]
  rfl

/-- The second item of a list in a list lacks its comma. -/
theorem exists_refused_token_of_ofSource_innerList :
    let source := "notes tag in [1, [2 3]]"
    ∃ tokens, tokenize source = .ok tokens ∧
      Tree.ofSource source = .error (.grammar .commaOrBracket (some "3") 20) ∧
      ∃ front t rest, tokens = front ++ t :: rest ∧
        (∃ words, (QueryError.parse (.grammar .commaOrBracket (some "3") 20)).message =
          words ++ " at offset " ++ toString t.start) ∧
        (∃ source' more tree, tokenize source' = .ok (front ++ more) ∧
          Tree.ofSource source' = .ok tree) ∧
        ∀ tokens', front ++ [t] <+: tokens' → ∀ size tree, program size tokens' ≠ .ok tree := by
  intro source
  have hread : (tokenize source).isOk = true := by decide +kernel
  have hmap : (Tree.ofSource source).map (fun _ => ()) =
      .error (.grammar .commaOrBracket (some "3") 20) := by decide +kernel
  have herror : Tree.ofSource source = .error (.grammar .commaOrBracket (some "3") 20) := by
    cases htree : Tree.ofSource source with
    | error e =>
      rw [htree] at hmap
      exact congrArg Except.error (Except.error.inj hmap)
    | ok tree =>
      rw [htree] at hmap
      cases hmap
  cases htokens : tokenize source with
  | error e =>
    rw [htokens] at hread
    cases hread
  | ok tokens => exact ⟨tokens, rfl, herror, exists_refused_token_of_ofSource htokens herror⟩

end NoteQuery
