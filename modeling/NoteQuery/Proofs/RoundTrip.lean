import NoteQuery.Proofs.Decoding
import NoteQuery.Proofs.Spacing

/-!
# Written queries are read back

The text of a written query is read as the query that is asked for. The lexer gives back the words
between their blanks (`readsAs_text`). Words that are spelled by tokens have a derivation, and its
meaning is what was written: this is shown for values, for clauses and for whole queries, and what
the parser makes of a derivation is known.
-/

namespace NoteQuery.QueryText

open Text Syntax

/-! ## Tokens that spell words -/

/-- The tokens are those of the words, each behind a gap of a sort. -/
inductive Spells (P : Gap → Prop) : List Token → List Word → Prop
  | nil : Spells P [] []
  | cons {gap : Gap} {t : Token} {rest : List Token} {w : Word} {ws : List Word} (hgap : P gap)
    (ht : t.word = w) (h : Spells P rest ws) : Spells P (gap.tokens ++ t :: rest) (w :: ws)

/-- White space that is there. -/
def IsSpace (gap : Gap) : Prop := gap.tokens ≠ []

section

variable {P : Gap → Prop} {tokens : List Token} {ws : List Word}

theorem Spells.eq_nil (h : Spells P tokens []) : tokens = [] := by
  cases h
  rfl

theorem Spells.exists_of_append {ws' : List Word} (h : Spells P tokens (ws ++ ws')) :
    ∃ front rest, tokens = front ++ rest ∧ Spells P front ws ∧ Spells P rest ws' := by
  induction ws generalizing tokens with
  | nil => exact ⟨[], tokens, rfl, .nil, h⟩
  | cons w ws ih =>
    cases h with
    | cons hgap ht h =>
      obtain ⟨front, rest, rfl, hfront, hrest⟩ := ih h
      exact ⟨_, rest, by simp, .cons hgap ht hfront, hrest⟩

/-- White space and a token of a class. -/
theorem Spells.exists_of_cons {p : Token → Bool} {w : Word} (h : Spells P tokens (w :: ws))
    (hw : ∀ t : Token, t.word = w → p t = true) :
    ∃ (gap : Gap) (t : TokenOf p) (rest : List Token), tokens = gap.tokens ++ t.1 :: rest ∧
      P gap ∧ t.1.word = w ∧ Spells P rest ws := by
  cases h with
  | @cons gap t rest w ws hgap ht h => exact ⟨gap, ⟨t, hw t ht⟩, rest, rfl, hgap, ht, h⟩

/-- Words that are written with single blanks are spelled with white space between them. -/
theorem spells_of_map_eq (h : tokens.map Token.word = spaced ws) : Spells IsSpace tokens ws := by
  induction ws generalizing tokens with
  | nil =>
    obtain rfl : tokens = [] := List.map_eq_nil_iff.1 h
    exact .nil
  | cons w ws ih =>
    have hspaced : tokens.map Token.word = .blank :: w :: spaced ws := h
    obtain ⟨space, behind, rfl, hspace, hbehind⟩ := List.map_eq_cons_iff.1 hspaced
    obtain ⟨t, rest, rfl, ht, hrest⟩ := List.map_eq_cons_iff.1 hbehind
    have hblank : Syntax.isBlank space = true := by
      have hkind : space.kind = .blank := congrArg Word.kind hspace
      simp [Syntax.isBlank, hkind]
    let gap : Gap := ⟨[space], by simpa using hblank⟩
    have hgap : IsSpace gap := List.cons_ne_nil _ _
    exact .cons hgap ht (ih hrest)

end

/-! ## Classes of words -/

section

variable {t : Token} {w : Word}

theorem kind_of_word (h : t.word = w) : t.kind = w.kind := congrArg Word.kind h

theorem text_of_word (h : t.word = w) : t.text = w.text := congrArg Word.text h

theorem kind_beq_of_word (h : t.word = w) : (t.kind == w.kind) = true := by
  rw [kind_of_word h, beq_self_eq_true]

theorem isWord_of_word {text : String} (h : t.word = .keyword text) : t.isWord text = true := by
  simp [Token.isWord, kind_of_word h, text_of_word h, Word.keyword]

theorem Name.isName_of_word {n : Name} (h : t.word = n.word) : isName t = true := by
  have hname := n.not_mem_clauseKeywords
  simpa [isName, kind_of_word h, text_of_word h, Name.word, Name.text] using hname

theorem Connective.isConnective_of_word {c : Connective} (h : t.word = c.word) :
    isConnective t = true := by
  cases c with
  | whereWord => simp [isConnective, isWord_of_word h]
  | andWord => simp [isConnective, isWord_of_word h]

theorem Direction.isDirection_of_word {d : Direction} (h : t.word = d.word) :
    isDirection t = true := by
  cases d with
  | ascending => simp [isDirection, isWord_of_word h]
  | descending => simp [isDirection, isWord_of_word h]

theorem isComparison_of_word {c : Comparison} (h : t.word = comparisonWord c) :
    isComparison t = true := by
  unfold comparisonWord at h
  split at h
  · rename_i hin
    subst hin
    have hword : t.isWord "in" = true := isWord_of_word h
    rw [isComparison, hword, Bool.or_true]
  · simp [isComparison, kind_of_word h]

theorem ofSymbol?_of_word {c : Comparison} (h : t.word = comparisonWord c) :
    Comparison.ofSymbol? t.text = some c := by
  have htext : (comparisonWord c).text = c.symbol := by
    unfold comparisonWord
    split <;> rfl
  rw [text_of_word h, htext, Comparison.ofSymbol?_symbol]

theorem Target.isTarget_of_word {target : Target} (h : t.word = target.word) :
    isTarget t = true := by
  cases target with
  | page p => simp [isTarget, kind_of_word h, Target.word, PageName.word]
  | quoted q => simp [isTarget, kind_of_word h, Target.word, Quoted.word]

end

section

variable {P : Gap → Prop} {tokens : List Token} {ws : List Word}

theorem Spells.exists_ofKind {kind : TokenKind} {text : String}
    (h : Spells P tokens (⟨kind, text⟩ :: ws)) :
    ∃ (gap : Gap) (t : OfKind kind) (rest : List Token), tokens = gap.tokens ++ t.1 :: rest ∧
      P gap ∧ t.1.word = ⟨kind, text⟩ ∧ Spells P rest ws :=
  h.exists_of_cons (fun _ ht => kind_beq_of_word ht)

theorem Spells.exists_keyword {text : String} (h : Spells P tokens (.keyword text :: ws)) :
    ∃ (gap : Gap) (t : Syntax.Word text) (rest : List Token), tokens = gap.tokens ++ t.1 :: rest ∧
      P gap ∧ Spells P rest ws := by
  obtain ⟨gap, t, rest, htokens, hgap, -, hrest⟩ := h.exists_of_cons (fun _ ht => isWord_of_word ht)
  exact ⟨gap, t, rest, htokens, hgap, hrest⟩

theorem Spells.exists_name {n : Name} (h : Spells P tokens (n.word :: ws)) :
    ∃ (gap : Gap) (t : TokenOf isName) (rest : List Token), tokens = gap.tokens ++ t.1 :: rest ∧
      P gap ∧ t.1.text = n.text ∧ Spells P rest ws := by
  obtain ⟨gap, t, rest, htokens, hgap, ht, hrest⟩ :=
    h.exists_of_cons (fun _ ht => n.isName_of_word ht)
  exact ⟨gap, t, rest, htokens, hgap, text_of_word ht, hrest⟩

end

/-! ## Literals -/

theorem Quoted.inside_word (q : Quoted) : inside 1 q.word.text = q.text :=
  inside_append [q.quote] q.body [q.quote] rfl rfl

theorem Regex.inside_word (r : Regex) : inside 1 r.word.text = r.text :=
  inside_append ['/'] r.body ['/'] rfl rfl

theorem PageName.inside_word (p : PageName) : inside 2 p.word.text = p.text :=
  inside_append ['[', '['] p.body [']', ']'] rfl rfl

theorem Numeral.numberOf_of_word {n : Numeral} {t : Token} (h : t.word = n.word) :
    numberOf t = n.number := by
  have htext : t.text.toList = n.toList := by
    rw [text_of_word h]
    exact String.toList_ofList
  rw [numberOf, Binary64.ofText?_numeral n.negative n.isDigits_whole n.isDigits_fraction htext]
  rfl

/-- A word that stands for a value. -/
structure Word.Means (w : Word) (x : Value) : Prop where
  isLiteral_of_word : ∀ t : Token, t.word = w → isLiteral t = true
  literalMeaning_of_word : ∀ t : Token, t.word = w → literalMeaning t = x

theorem Numeral.means (n : Numeral) : n.word.Means (.number n.number) where
  isLiteral_of_word t ht := by simp [isLiteral, kind_of_word ht, Numeral.word]
  literalMeaning_of_word t ht := by
    have hkind : t.kind = .number := kind_of_word ht
    rw [literalMeaning, hkind]
    exact congrArg Value.number (numberOf_of_word ht)

theorem Quoted.means (q : Quoted) : q.word.Means (.string q.text) where
  isLiteral_of_word t ht := by simp [isLiteral, kind_of_word ht, Quoted.word]
  literalMeaning_of_word t ht := by
    have hkind : t.kind = .string := kind_of_word ht
    rw [literalMeaning, hkind, text_of_word ht]
    exact congrArg Value.string q.inside_word

theorem Regex.means (r : Regex) : r.word.Means (.string r.text) where
  isLiteral_of_word t ht := by simp [isLiteral, kind_of_word ht, Regex.word]
  literalMeaning_of_word t ht := by
    have hkind : t.kind = .regex := kind_of_word ht
    rw [literalMeaning, hkind, text_of_word ht]
    exact congrArg Value.string r.inside_word

theorem PageName.means (p : PageName) : p.word.Means (.pageRef p.text) where
  isLiteral_of_word t ht := by simp [isLiteral, kind_of_word ht, PageName.word]
  literalMeaning_of_word t ht := by
    have hkind : t.kind = .pageRef := kind_of_word ht
    rw [literalMeaning, hkind, text_of_word ht]
    exact congrArg Value.pageRef p.inside_word

/-- What a word means that is written like a name. -/
def wordValue (text : String) : Value :=
  if text = "true" ∨ text = "false" then .bool (text == "true")
  else if text = "null" then .null
  else .string text

theorem means_identifier (text : String) (h : text ∉ clauseKeywords) :
    Word.Means ⟨.identifier, text⟩ (wordValue text) where
  isLiteral_of_word t ht := by simp [isLiteral, isName, kind_of_word ht, text_of_word ht, h]
  literalMeaning_of_word t ht := by
    have hkind : t.kind = .identifier := kind_of_word ht
    rw [literalMeaning, hkind, text_of_word ht]
    rfl

theorem Name.means (n : Name) (h : n.text ∉ valueWords) : n.word.Means (.string n.text) := by
  have hmeans : n.word.Means (wordValue n.text) := means_identifier n.text n.not_mem_clauseKeywords
  have hvalue : wordValue n.text = .string n.text := by
    simp only [valueWords, List.mem_cons, List.not_mem_nil, or_false, not_or] at h
    rw [wordValue, if_neg (by simp [h]), if_neg (by simp [h])]
  rwa [hvalue] at hmeans

/-! ## Values -/

section

variable {P : Gap → Prop}

theorem exists_literalPhrase {w : Word} {x : Value} (hw : w.Means x) {tokens : List Token}
    (h : Spells P tokens [w]) :
    ∃ (gap : Gap) (v : ValuePhrase), tokens = gap.tokens ++ v.tokens ∧ v.meaning = x := by
  obtain ⟨gap, t, rest, rfl, -, ht, hrest⟩ := h.exists_of_cons hw.isLiteral_of_word
  obtain rfl := hrest.eq_nil
  exact ⟨gap, .literal t, by rw [ValuePhrase.tokens], hw.literalMeaning_of_word t.1 ht⟩

namespace Operand

mutual

/-- Tokens that spell a value have a derivation, and it means the value. -/
theorem exists_valuePhrase (o : Operand) {tokens : List Token} (h : Spells P tokens o.words) :
    ∃ (gap : Gap) (v : ValuePhrase), tokens = gap.tokens ++ v.tokens ∧ v.meaning = o.value := by
  match o with
  | numeral n => exact exists_literalPhrase n.means h
  | bool true => exact exists_literalPhrase (means_identifier "true" (by decide)) h
  | bool false => exact exists_literalPhrase (means_identifier "false" (by decide)) h
  | null => exact exists_literalPhrase (means_identifier "null" (by decide)) h
  | name n hn => exact exists_literalPhrase (n.means hn) h
  | quoted q => exact exists_literalPhrase q.means h
  | regex r => exact exists_literalPhrase r.means h
  | page p => exact exists_literalPhrase p.means h
  | list [] =>
    rw [words] at h
    obtain ⟨gap, opening, rest, rfl, -, -, hrest⟩ :=
      h.exists_ofKind
    obtain ⟨gap', closing, rest, rfl, -, -, hrest⟩ :=
      hrest.exists_ofKind
    obtain rfl := hrest.eq_nil
    refine ⟨gap, .emptyList opening gap' closing, by rw [ValuePhrase.tokens], ?_⟩
    rw [ValuePhrase.meaning, value, values]
  | list (item :: items) =>
    rw [words] at h
    obtain ⟨gap, opening, rest, rfl, -, -, hrest⟩ :=
      h.exists_ofKind
    obtain ⟨front, behind, rfl, hfront, hbehind⟩ := hrest.exists_of_append
    obtain ⟨gap', v, rfl, hv⟩ := item.exists_valuePhrase hfront
    obtain ⟨is, htokens, his⟩ := exists_itemPhrases items hbehind v
    refine ⟨gap, .list opening gap' is, ?_, ?_⟩
    · rw [ValuePhrase.tokens, htokens, List.append_assoc]
    · rw [ValuePhrase.meaning, his, hv, value, values]

/-- The same for what follows an item, up to the bracket. -/
theorem exists_itemPhrases (items : List Operand) {tokens : List Token}
    (h : Spells P tokens (furtherWords items ++ [.rightBracket])) (v : ValuePhrase) :
    ∃ is : ItemPhrases, is.tokens = v.tokens ++ tokens ∧
      is.meanings = v.meaning :: values items := by
  match items with
  | [] =>
    rw [furtherWords, List.nil_append] at h
    obtain ⟨gap, closing, rest, rfl, -, -, hrest⟩ :=
      h.exists_ofKind
    obtain rfl := hrest.eq_nil
    exact ⟨.last v gap closing, by rw [ItemPhrases.tokens], by rw [ItemPhrases.meanings, values]⟩
  | item :: items =>
    rw [furtherWords, List.cons_append, List.append_assoc] at h
    obtain ⟨gap, comma, rest, rfl, -, -, hrest⟩ :=
      h.exists_ofKind
    obtain ⟨front, behind, rfl, hfront, hbehind⟩ := hrest.exists_of_append
    obtain ⟨gap', v', rfl, hv⟩ := item.exists_valuePhrase hfront
    obtain ⟨is, htokens, his⟩ := exists_itemPhrases items hbehind v'
    refine ⟨.more v gap comma gap' is, ?_, ?_⟩
    · rw [ItemPhrases.tokens, htokens, List.append_assoc]
    · rw [ItemPhrases.meanings, his, hv, values]

end

end Operand

end

/-! ## Clauses -/

section

variable {P : Gap → Prop} {tokens : List Token}

/-- The derivation of a clause means what was written. -/
structure Expresses (phrase : Syntax.Clause) (c : Clause) : Prop where
  filter?_eq : phrase.filter?.map FilterPhrase.meaning = c.filter?
  order?_eq : phrase.order?.map OrderPhrase.meaning = c.order?
  limit?_eq : phrase.limit?.map LimitPhrase.meaning = c.limit?.map .ok
  select?_eq : phrase.select?.map SelectPhrase.meaning = c.select?
  render?_eq : phrase.render?.map RenderPhrase.meaning = c.render?
  /-- It may stand behind an order without a direction. -/
  startsLikeDirection_eq_false : phrase.startsLikeDirection = false

theorem Count.meaning_of_word {c : Count} {l : LimitPhrase} (h : l.number.1.word = c.word) :
    l.meaning = .ok c.number := by
  let n : Numeral := ⟨false, c.digits, none, c.isDigits, nofun⟩
  have hword : c.word = n.word := by simp [Count.word, Numeral.word, Numeral.toList, n]
  have hnumber : n.number = Binary64.ofRatio false c.number 1 := by
    rw [← Binary64.ofDecimal_zero, Numeral.number, Option.getD_none, List.append_nil]
    rfl
  have hlimit : Tree.admissibleLimit? (numberOf l.number.1) = some c.number := by
    rw [Numeral.numberOf_of_word (h.trans hword), hnumber]
    exact Binary64.admissibleLimit?_ofRatio c.le_twoTo
  rw [LimitPhrase.meaning, hlimit]

theorem Target.meaning_of_word {target : Target} {r : RenderPhrase}
    (h : r.target.1.word = target.word) : r.meaning = target.text := by
  cases target with
  | page p =>
    have hkind : r.target.1.kind = .pageRef := kind_of_word h
    rw [RenderPhrase.meaning, if_pos hkind, text_of_word h]
    exact p.inside_word
  | quoted q =>
    have hkind : r.target.1.kind = .string := kind_of_word h
    rw [RenderPhrase.meaning, if_neg (by simp [hkind]), text_of_word h]
    exact q.inside_word

theorem exists_directionPhrase (direction : Option Direction)
    (h : Spells P tokens (direction.toList.map Direction.word)) :
    ∃ phrase : Option DirectionPhrase, tokens = phrase.elim [] DirectionPhrase.tokens ∧
      phrase.elim false (fun d => d.word.1.text == "desc") =
        decide (direction = some .descending) := by
  cases direction with
  | none => exact ⟨none, h.eq_nil, rfl⟩
  | some d =>
    obtain ⟨gap, t, rest, rfl, -, ht, hrest⟩ :=
      h.exists_of_cons (fun _ ht => d.isDirection_of_word ht)
    obtain rfl := hrest.eq_nil
    refine ⟨some ⟨gap, t⟩, rfl, ?_⟩
    rw [Option.elim_some, text_of_word ht]
    cases d <;> rfl

theorem exists_furtherNames (names : List Name)
    (h : Spells P tokens (names.flatMap (fun n => [.comma, n.word]))) :
    ∃ phrases : List FurtherName, tokens = phrases.flatMap FurtherName.tokens ∧
      phrases.map (fun n => n.name.1.text) = names.map Name.text := by
  induction names generalizing tokens with
  | nil => exact ⟨[], h.eq_nil, rfl⟩
  | cons n names ih =>
    obtain ⟨gap, comma, rest, rfl, -, -, hrest⟩ := h.exists_ofKind
    obtain ⟨gap', field, rest, rfl, -, hfield, hrest⟩ := hrest.exists_name
    obtain ⟨phrases, rfl, hphrases⟩ := ih hrest
    refine ⟨⟨gap, comma, gap', field⟩ :: phrases, ?_, ?_⟩
    · simp [FurtherName.tokens]
    · rw [List.map_cons, List.map_cons, hphrases]
      exact congrArg (· :: _) hfield

theorem exists_filterPhrase {field : Name} {comparison : Comparison} {operand : Operand}
    (h : Spells P tokens (field.word :: comparisonWord comparison :: operand.words)) :
    ∃ (gap : Gap) (f : FilterPhrase), tokens = gap.tokens ++ f.tokens ∧
      f.meaning = ⟨comparison, field.text, operand.value⟩ := by
  obtain ⟨gap, name, rest, rfl, -, hname, hrest⟩ := h.exists_name
  obtain ⟨gap₁, operator, rest, rfl, -, hoperator, hrest⟩ :=
    hrest.exists_of_cons (fun _ ht => isComparison_of_word ht)
  obtain ⟨gap₂, v, rfl, hv⟩ := operand.exists_valuePhrase hrest
  refine ⟨gap, ⟨name, gap₁, operator, gap₂, v⟩, rfl, ?_⟩
  rw [FilterPhrase.meaning, ofSymbol?_of_word hoperator, hname, hv]
  rfl

theorem exists_orderPhrase {field : Name} {direction : Option Direction}
    (h : Spells P tokens (Clause.order field direction).words) :
    ∃ (gap : Gap) (o : OrderPhrase), P gap ∧ tokens = gap.tokens ++ o.tokens ∧
      o.meaning = (field.text, decide (direction = some .descending)) := by
  obtain ⟨gap, word, rest, rfl, hgap, hrest⟩ := h.exists_keyword
  obtain ⟨gap₁, byWord, rest, rfl, -, hrest⟩ := hrest.exists_keyword
  obtain ⟨gap₂, name, rest, rfl, -, hname, hrest⟩ := hrest.exists_name
  obtain ⟨d, rfl, hd⟩ := exists_directionPhrase direction hrest
  refine ⟨gap, ⟨word, gap₁, byWord, gap₂, name, d⟩, hgap, rfl, ?_⟩
  rw [OrderPhrase.meaning, hname, hd]

theorem exists_limitPhrase {count : Count} (h : Spells P tokens (Clause.limit count).words) :
    ∃ (gap : Gap) (l : LimitPhrase), P gap ∧ tokens = gap.tokens ++ l.tokens ∧
      l.meaning = .ok count.number := by
  obtain ⟨gap, word, rest, rfl, hgap, hrest⟩ := h.exists_keyword
  obtain ⟨gap₁, number, rest, rfl, -, hnumber, hrest⟩ := hrest.exists_ofKind
  obtain rfl := hrest.eq_nil
  exact ⟨gap, ⟨word, gap₁, number⟩, hgap, rfl, Count.meaning_of_word hnumber⟩

theorem exists_selectPhrase {first : Name} {further : List Name}
    (h : Spells P tokens (Clause.select first further).words) :
    ∃ (gap : Gap) (s : SelectPhrase), P gap ∧ tokens = gap.tokens ++ s.tokens ∧
      s.meaning = first.text :: further.map Name.text := by
  obtain ⟨gap, word, rest, rfl, hgap, hrest⟩ := h.exists_keyword
  obtain ⟨gap₁, name, rest, rfl, -, hname, hrest⟩ := hrest.exists_name
  obtain ⟨names, rfl, hnames⟩ := exists_furtherNames further hrest
  refine ⟨gap, ⟨word, gap₁, name, names⟩, hgap, rfl, ?_⟩
  rw [SelectPhrase.meaning, hname, hnames]

theorem exists_renderPhrase {target : Target} (h : Spells P tokens (Clause.render target).words) :
    ∃ (gap : Gap) (r : RenderPhrase), P gap ∧ tokens = gap.tokens ++ r.tokens ∧
      r.meaning = target.text := by
  obtain ⟨gap, word, rest, rfl, hgap, hrest⟩ := h.exists_keyword
  obtain ⟨gap₁, token, rest, rfl, -, htarget, hrest⟩ :=
    hrest.exists_of_cons (fun _ ht => target.isTarget_of_word ht)
  obtain rfl := hrest.eq_nil
  exact ⟨gap, ⟨word, gap₁, token⟩, hgap, rfl, Target.meaning_of_word htarget⟩

/-- Tokens that spell a clause have a derivation, and it means the clause. -/
theorem Clause.exists_spacedClause (c : Clause) (h : Spells IsSpace tokens c.words) :
    ∃ phrase : SpacedClause, tokens = phrase.tokens ∧ Expresses phrase.clause c := by
  cases c with
  | filter connective field comparison operand =>
    obtain ⟨gap, word, rest, rfl, hgap, -, hrest⟩ :=
      h.exists_of_cons (fun _ ht => connective.isConnective_of_word ht)
    obtain ⟨gap₁, f, rfl, hf⟩ := exists_filterPhrase hrest
    exact ⟨⟨gap, hgap, .filter (some ⟨word, gap₁⟩) f⟩, rfl, congrArg some hf, rfl, rfl, rfl, rfl,
      rfl⟩
  | order field direction =>
    obtain ⟨gap, o, hgap, rfl, ho⟩ := exists_orderPhrase h
    exact ⟨⟨gap, hgap, .order o⟩, rfl, rfl, congrArg some ho, rfl, rfl, rfl, rfl⟩
  | limit count =>
    obtain ⟨gap, l, hgap, rfl, hl⟩ := exists_limitPhrase h
    exact ⟨⟨gap, hgap, .limit l⟩, rfl, rfl, rfl, congrArg some hl, rfl, rfl, rfl⟩
  | select first further =>
    obtain ⟨gap, s, hgap, rfl, hs⟩ := exists_selectPhrase h
    exact ⟨⟨gap, hgap, .select s⟩, rfl, rfl, rfl, rfl, congrArg some hs, rfl, rfl⟩
  | render target =>
    obtain ⟨gap, r, hgap, rfl, hr⟩ := exists_renderPhrase h
    exact ⟨⟨gap, hgap, .render r⟩, rfl, rfl, rfl, rfl, rfl, congrArg some hr, rfl⟩

end

/-! ## Queries -/

/-- Phrases that express the written clauses one by one. -/
def ExpressAll (phrases : List SpacedClause) (cs : List Clause) : Prop :=
  List.Forall₂ (fun phrase c => Expresses phrase.clause c) phrases cs

theorem exists_spacedClauses (cs : List Clause) {tokens : List Token}
    (h : tokens.map Token.word = spaced (cs.flatMap Clause.words)) :
    ∃ phrases : List SpacedClause, tokens = phrases.flatMap SpacedClause.tokens ∧
      ExpressAll phrases cs := by
  induction cs generalizing tokens with
  | nil => exact ⟨[], List.map_eq_nil_iff.1 h, .nil⟩
  | cons c cs ih =>
    rw [List.flatMap_cons, spaced, List.flatMap_append] at h
    obtain ⟨front, rest, rfl, hfront, hrest⟩ := List.map_eq_append_iff.1 h
    obtain ⟨phrase, rfl, hphrase⟩ := c.exists_spacedClause (spells_of_map_eq hfront)
    obtain ⟨phrases, rfl, hphrases⟩ := ih hrest
    exact ⟨phrase :: phrases, rfl, .cons hphrase hphrases⟩

section

variable {phrases : List SpacedClause} {cs : List Clause} {α β : Type}

/-- The first clause of a kind is expressed by the first phrase of the kind. -/
theorem ExpressAll.findSome?_eq (h : ExpressAll phrases cs) {of? : Syntax.Clause → Option α}
    {meaning : α → β} {asked? : Clause → Option β}
    (heq : ∀ {phrase c}, Expresses phrase c → (of? phrase).map meaning = asked? c) :
    (phrases.findSome? (fun phrase => of? phrase.clause)).map meaning = cs.findSome? asked? := by
  induction h with
  | nil => rfl
  | @cons phrase c phrases cs hphrase hphrases ih =>
    have hfirst := heq hphrase
    rw [List.findSome?_cons, List.findSome?_cons, ← hfirst, ← ih]
    cases of? phrase.clause <;> rfl

theorem ExpressAll.filterMap_eq (h : ExpressAll phrases cs) {of? : Syntax.Clause → Option α}
    {meaning : α → β} {asked? : Clause → Option β}
    (heq : ∀ {phrase c}, Expresses phrase c → (of? phrase).map meaning = asked? c) :
    (phrases.filterMap (fun phrase => of? phrase.clause)).map meaning = cs.filterMap asked? := by
  induction h with
  | nil => rfl
  | @cons phrase c phrases cs hphrase hphrases ih =>
    have hfirst := heq hphrase
    rw [List.filterMap_cons, List.filterMap_cons, ← hfirst, ← ih]
    cases of? phrase.clause <;> rfl

/-- No clause with a word in front is taken for a direction. -/
theorem ExpressAll.isChain (h : ExpressAll phrases cs) :
    phrases.IsChain SpacedClause.MayPrecede := by
  induction h with
  | nil => exact .nil
  | cons hphrase hphrases ih =>
    cases hphrases with
    | nil => exact .singleton _
    | cons hnext hphrases => exact .cons_cons (fun _ => hnext.startsLikeDirection_eq_false) ih

end

/-- A derivation with the table's name and these phrases means the query. -/
theorem meaning_eq_ok_query (q : QueryText) {phrase : QueryPhrase}
    (htable : phrase.table.1.word = q.table.word) (h : ExpressAll phrase.clauses q.clauses) :
    phrase.meaning = .ok q.query := by
  have hfilters := h.filterMap_eq Expresses.filter?_eq
  have horder := h.findSome?_eq Expresses.order?_eq
  have hselect := h.findSome?_eq Expresses.select?_eq
  have hrender := h.findSome?_eq Expresses.render?_eq
  have hbut : ∀ limit, phrase.withLimit limit = { q.query with limit := limit } := by
    intro limit
    rw [QueryPhrase.withLimit, query, hfilters, ← horder, ← hselect, ← hrender, text_of_word htable]
    simp only [Option.map_map]
    rfl
  -- the limit is the only part that could have no meaning
  have hlimit : (phrase.first? Syntax.Clause.limit?).map LimitPhrase.meaning =
      q.query.limit.map .ok := by
    have hfirst := h.findSome?_eq (fun hc => Expresses.limit?_eq hc)
    rw [query, List.map_findSome?]
    exact hfirst
  unfold QueryPhrase.meaning
  cases hphrase : phrase.first? Syntax.Clause.limit? with
  | none =>
    rw [hphrase] at hlimit
    have hnone : q.query.limit = none := Option.map_eq_none_iff.1 hlimit.symm
    dsimp only
    rw [hbut, ← hnone]
  | some l =>
    rw [hphrase] at hlimit
    obtain ⟨n, hn, hl⟩ := Option.map_eq_some_iff.1 hlimit.symm
    dsimp only
    rw [← hl, Except.map, hbut, ← hn]

/-- The text of a written query is read as the query that is asked for. -/
theorem ofText_text (q : QueryText) : Query.ofText q.text = .ok q.query := by
  obtain ⟨tokens, finish, htokens, hfinish, hwords⟩ := q.readsAs_text 0
  obtain ⟨table, rest, rfl, htable, hrest⟩ := List.map_eq_cons_iff.1 hwords
  obtain ⟨phrases, rfl, hphrases⟩ := exists_spacedClauses q.clauses hrest
  -- no white space stands in front of the query or behind it
  let phrase : QueryPhrase := ⟨⟨table, Name.isName_of_word htable⟩, phrases, hphrases.isChain⟩
  let p : Program := ⟨⟨[], nofun⟩, phrase, ⟨[], nofun⟩, ⟨finish, by simp [hfinish]⟩⟩
  have hp : tokenize q.text = .ok p.tokens := htokens
  have htree : Tree.ofSource q.text = .ok (p.tree q.text.utf8ByteSize) := by
    rw [Tree.ofSource, hp, ok_bind, program_tokens]
  have hspelled : AllSpelled p.tokens := (wellRead_of_tokenize hp).admits
  rw [Query.ofText, htree, ok_bind, p.ofTree_tree _ hspelled, q.meaning_eq_ok_query htable hphrases]
  rfl

example :
    let name : Name := ⟨'t', [], by decide, nofun, by decide⟩
    let one : Numeral :=
      ⟨false, ['1'], none, ⟨by decide, List.forall_mem_singleton.2 (by decide)⟩, nofun⟩
    (QueryText.mk name [.filter .whereWord name .isIn (.list [.numeral one, .list []]),
      .order name (some .descending), .order name none]).text =
      "t where t in [ 1 , [ ] ] order by t desc order by t" := by
  decide +kernel

end NoteQuery.QueryText
