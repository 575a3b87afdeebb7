import NoteQuery.Proofs.Derivation

/-!
# What phrases are made of

No token of a phrase is the end of the text, and no phrase begins with white space. So the white
space between two phrases is all of it, whatever the parser skips.
-/

namespace NoteQuery.Syntax

/-! ## Classes without white space -/

/-- A class of tokens with a text of their own: no white space, and not the end of the text. -/
class IsSolid (p : Token → Bool) : Prop where
  isBlank_eq_false : ∀ t, p t = true → isBlank t = false
  kind_ne_endOfText : ∀ t, p t = true → t.kind ≠ .endOfText

theorem kind_of_isWord {t : Token} {word : String} (h : t.isWord word = true) :
    t.kind = .identifier := by
  simp only [Token.isWord, Bool.and_eq_true, beq_iff_eq] at h
  exact h.1

theorem text_of_isWord {t : Token} {word : String} (h : t.isWord word = true) : t.text = word := by
  simp only [Token.isWord, Bool.and_eq_true, beq_iff_eq] at h
  exact h.2

theorem kind_of_isName {t : Token} (h : isName t = true) : t.kind = .identifier := by
  simp only [isName, Bool.and_eq_true, beq_iff_eq] at h
  exact h.1

theorem text_ne_of_isName {t : Token} (h : isName t = true) :
    ∀ word ∈ clauseKeywords, t.text ≠ word := by
  intro word hword htext
  simp [isName, htext, hword] at h

theorem IsSolid.of_kind {p : Token → Bool} (kinds : List TokenKind)
    (hkinds : ∀ t, p t = true → t.kind ∈ kinds) (hblank : TokenKind.blank ∉ kinds)
    (hend : TokenKind.endOfText ∉ kinds) : IsSolid p where
  isBlank_eq_false t ht := by
    have hmem := hkinds t ht
    rw [isBlank, beq_eq_false_iff_ne]
    exact fun he => hblank (he ▸ hmem)
  kind_ne_endOfText t ht he := hend (he ▸ hkinds t ht)

instance : IsSolid isName :=
  .of_kind [.identifier] (fun t ht => by simp [kind_of_isName ht]) (by decide) (by decide)

instance (word : String) : IsSolid (fun t => t.isWord word) :=
  .of_kind [.identifier] (fun t ht => by simp [kind_of_isWord ht]) (by decide) (by decide)

instance : IsSolid isLiteral := by
  refine .of_kind [.number, .string, .regex, .pageRef, .identifier] (fun t ht => ?_)
    (by decide) (by decide)
  simp only [isLiteral, Bool.or_eq_true, beq_iff_eq] at ht
  rcases ht with (((h | h) | h) | h) | h
  · simp [h]
  · simp [h]
  · simp [h]
  · simp [h]
  · simp [kind_of_isName h]

instance : IsSolid isComparison := by
  refine .of_kind [.operator, .identifier] (fun t ht => ?_) (by decide) (by decide)
  simp only [isComparison, Bool.or_eq_true, beq_iff_eq] at ht
  rcases ht with h | h
  · simp [h]
  · simp [kind_of_isWord h]

theorem kind_of_isConnective {t : Token} (h : isConnective t = true) : t.kind = .identifier := by
  simp only [isConnective, Bool.or_eq_true] at h
  rcases h with h | h
  · exact kind_of_isWord h
  · exact kind_of_isWord h

theorem kind_of_isDirection {t : Token} (h : isDirection t = true) : t.kind = .identifier := by
  simp only [isDirection, Bool.or_eq_true] at h
  rcases h with h | h
  · exact kind_of_isWord h
  · exact kind_of_isWord h

instance : IsSolid isConnective :=
  .of_kind [.identifier] (fun t ht => by simp [kind_of_isConnective ht]) (by decide) (by decide)

instance : IsSolid isDirection :=
  .of_kind [.identifier] (fun t ht => by simp [kind_of_isDirection ht]) (by decide) (by decide)

instance : IsSolid isTarget := by
  refine .of_kind [.pageRef, .string] (fun t ht => ?_) (by decide) (by decide)
  simp only [isTarget, Bool.or_eq_true, beq_iff_eq] at ht
  rcases ht with h | h <;> simp [h]

/-- A kind of tokens with a text of their own. -/
theorem IsSolid.ofKind {kind : TokenKind} (hblank : kind ≠ .blank) (hend : kind ≠ .endOfText) :
    IsSolid (fun t => t.kind == kind) :=
  .of_kind [kind] (fun t ht => by simp [eq_of_beq ht]) (by simpa using hblank.symm)
    (by simpa using hend.symm)

instance : IsSolid (fun t => t.kind == .leftBracket) := .ofKind (by decide) (by decide)
instance : IsSolid (fun t => t.kind == .rightBracket) := .ofKind (by decide) (by decide)
instance : IsSolid (fun t => t.kind == .comma) := .ofKind (by decide) (by decide)
instance : IsSolid (fun t => t.kind == .number) := .ofKind (by decide) (by decide)

/-! ## White space -/

/-- The white space in front of a list of tokens. -/
def leadingGap (tokens : List Token) : Gap where
  tokens := tokens.takeWhile isBlank
  isBlank_of_mem _ ht := List.mem_takeWhile_imp ht

theorem eq_leadingGap_append (tokens : List Token) :
    tokens = (leadingGap tokens).tokens ++ afterBlanks tokens :=
  List.takeWhile_append_dropWhile.symm

theorem leaves_leadingGap (tokens : List Token) : (leadingGap tokens).leaves = blanks tokens := rfl

theorem afterBlanks_cons {t : Token} (ht : isBlank t = false) (rest : List Token) :
    afterBlanks (t :: rest) = t :: rest := by
  simp [afterBlanks, ht]

theorem blanks_cons {t : Token} (ht : isBlank t = false) (rest : List Token) :
    blanks (t :: rest) = [] := by
  simp [blanks, ht]

theorem afterBlanks_gap_append (gap : Gap) (rest : List Token) :
    afterBlanks (gap.tokens ++ rest) = afterBlanks rest :=
  List.dropWhile_append_of_pos gap.isBlank_of_mem

theorem blanks_gap_append (gap : Gap) (rest : List Token) :
    blanks (gap.tokens ++ rest) = gap.leaves ++ blanks rest := by
  rw [blanks, List.takeWhile_append_of_pos gap.isBlank_of_mem, List.map_append]
  rfl

/-- The first token that is not white space. -/
def next? (tokens : List Token) : Option Token := (afterBlanks tokens).head?

/-- The tokens begin with one that is not white space. -/
def StartsSolid (tokens : List Token) : Prop :=
  ∃ t others, tokens = t :: others ∧ isBlank t = false

theorem afterBlanks_gap_append_solid (gap : Gap) {front : List Token} (hfront : StartsSolid front)
    (rest : List Token) : afterBlanks (gap.tokens ++ (front ++ rest)) = front ++ rest := by
  obtain ⟨t, others, rfl, ht⟩ := hfront
  rw [afterBlanks_gap_append, List.cons_append, afterBlanks_cons ht]

theorem blanks_gap_append_solid (gap : Gap) {front : List Token} (hfront : StartsSolid front)
    (rest : List Token) : blanks (gap.tokens ++ (front ++ rest)) = gap.leaves := by
  obtain ⟨t, others, rfl, ht⟩ := hfront
  rw [blanks_gap_append, List.cons_append, blanks_cons ht, List.append_nil]

section

variable {p : Token → Bool} [IsSolid p]

theorem isBlank_eq_false (t : TokenOf p) : isBlank t.1 = false :=
  IsSolid.isBlank_eq_false t.1 t.2

theorem afterBlanks_gap_append_cons (gap : Gap) (t : TokenOf p) (rest : List Token) :
    afterBlanks (gap.tokens ++ t.1 :: rest) = t.1 :: rest := by
  rw [afterBlanks_gap_append, afterBlanks_cons (isBlank_eq_false t)]

theorem blanks_gap_append_cons (gap : Gap) (t : TokenOf p) (rest : List Token) :
    blanks (gap.tokens ++ t.1 :: rest) = gap.leaves := by
  rw [blanks_gap_append, blanks_cons (isBlank_eq_false t), List.append_nil]

end

/-! ## Values of one token -/

/-- The values of one token are the literals; `true`, `false` and `null` could be names as well. -/
theorem isSome_literalTag? (t : Token) : (literalTag? t).isSome = isLiteral t := by
  unfold literalTag? isLiteral
  cases hkind : t.kind with
  | identifier =>
    have hname : isName t = !clauseKeywords.contains t.text := by simp [isName, hkind]
    dsimp only
    by_cases hbool : t.text = "true" ∨ t.text = "false"
    · rw [if_pos hbool, hname]
      rcases hbool with h | h <;> rw [h] <;> decide
    · rw [if_neg hbool]
      by_cases hnull : t.text = "null"
      · rw [if_pos hnull, hname, hnull]
        decide
      · rw [if_neg hnull]
        cases isName t <;> rfl
  | _ => simp [isName, hkind]

theorem literalTag?_eq (t : TokenOf isLiteral) : literalTag? t.1 = some (literalTag t) := by
  have hsome : (literalTag? t.1).isSome = true := by rw [isSome_literalTag?, t.2]
  obtain ⟨tag, htag⟩ := Option.isSome_iff_exists.1 hsome
  rw [literalTag, htag]
  rfl

theorem exists_of_literalTag? {t : Token} {tag : String} (h : literalTag? t = some tag) :
    ∃ token : TokenOf isLiteral, t = token.1 ∧ tag = literalTag token := by
  have ht : isLiteral t = true := by rw [← isSome_literalTag?, h, Option.isSome_some]
  have htag := literalTag?_eq ⟨t, ht⟩
  exact ⟨⟨t, ht⟩, rfl, Option.some.inj (h.symm.trans htag)⟩

/-! ## How phrases begin -/

/-- A value does not begin with white space or a closing bracket. -/
theorem ValuePhrase.exists_tokens_eq_cons (v : ValuePhrase) :
    ∃ t others, v.tokens = t :: others ∧ isBlank t = false ∧ t.kind ≠ .rightBracket := by
  cases v with
  | literal t =>
    refine ⟨t.1, [], rfl, isBlank_eq_false t, fun hkind => ?_⟩
    have ht := t.2
    simp [isLiteral, isName, hkind] at ht
  | emptyList opening gap closing =>
    exact ⟨opening.1, _, rfl, isBlank_eq_false opening, by simp [eq_of_beq opening.2]⟩
  | list opening gap items =>
    exact ⟨opening.1, _, rfl, isBlank_eq_false opening, by simp [eq_of_beq opening.2]⟩

theorem ItemPhrases.exists_tokens_eq_cons (is : ItemPhrases) :
    ∃ t others, is.tokens = t :: others ∧ isBlank t = false ∧ t.kind ≠ .rightBracket := by
  cases is with
  | last item gap closing =>
    obtain ⟨t, others, htokens, ht⟩ := item.exists_tokens_eq_cons
    exact ⟨t, _, by rw [tokens, htokens, List.cons_append], ht⟩
  | more item gap comma gap' items =>
    obtain ⟨t, others, htokens, ht⟩ := item.exists_tokens_eq_cons
    exact ⟨t, _, by rw [tokens, htokens, List.cons_append], ht⟩

theorem ValuePhrase.startsSolid (v : ValuePhrase) : StartsSolid v.tokens := by
  obtain ⟨t, others, htokens, ht, -⟩ := v.exists_tokens_eq_cons
  exact ⟨t, others, htokens, ht⟩

theorem ItemPhrases.startsSolid (is : ItemPhrases) : StartsSolid is.tokens := by
  obtain ⟨t, others, htokens, ht, -⟩ := is.exists_tokens_eq_cons
  exact ⟨t, others, htokens, ht⟩

theorem FilterPhrase.startsSolid (f : FilterPhrase) : StartsSolid f.tokens :=
  ⟨f.field.1, _, rfl, isBlank_eq_false f.field⟩

theorem isDirection_eq_false {t : Token} {word : String} (h : t.isWord word = true)
    (hasc : word ≠ "asc") (hdesc : word ≠ "desc") : isDirection t = false := by
  simp [isDirection, Token.isWord, text_of_isWord h, hasc, hdesc]

/-- A clause begins with a word. -/
theorem Clause.exists_tokens_eq_cons (c : Clause) :
    ∃ t others, c.tokens = t :: others ∧ t.kind = .identifier ∧
      isDirection t = c.startsLikeDirection := by
  cases c with
  | filter connective f =>
    cases connective with
    | none => exact ⟨f.field.1, _, rfl, kind_of_isName f.field.2, rfl⟩
    | some c =>
      refine ⟨c.word.1, _, rfl, kind_of_isConnective c.word.2, ?_⟩
      have hword := c.word.2
      simp only [isConnective, Bool.or_eq_true] at hword
      rcases hword with hword | hword
      · exact isDirection_eq_false hword (by decide) (by decide)
      · exact isDirection_eq_false hword (by decide) (by decide)
  | order o =>
    exact ⟨o.word.1, _, rfl, kind_of_isWord o.word.2,
      isDirection_eq_false o.word.2 (by decide) (by decide)⟩
  | limit l =>
    exact ⟨l.word.1, _, rfl, kind_of_isWord l.word.2,
      isDirection_eq_false l.word.2 (by decide) (by decide)⟩
  | select s =>
    exact ⟨s.word.1, _, rfl, kind_of_isWord s.word.2,
      isDirection_eq_false s.word.2 (by decide) (by decide)⟩
  | render r =>
    exact ⟨r.word.1, _, rfl, kind_of_isWord r.word.2,
      isDirection_eq_false r.word.2 (by decide) (by decide)⟩

theorem Clause.startsSolid (c : Clause) : StartsSolid c.tokens := by
  obtain ⟨t, others, htokens, hkind, -⟩ := c.exists_tokens_eq_cons
  exact ⟨t, others, htokens, by simp [isBlank, hkind]⟩

/-- What stands behind white space and in front of other tokens. -/
theorem SpacedClause.exists_next?_eq_some (c : SpacedClause) (rest : List Token) :
    ∃ t, next? (c.tokens ++ rest) = some t ∧ t.kind = .identifier ∧
      isDirection t = c.clause.startsLikeDirection := by
  obtain ⟨t, others, htokens, hkind, hdirection⟩ := c.clause.exists_tokens_eq_cons
  refine ⟨t, ?_, hkind, hdirection⟩
  rw [tokens, List.append_assoc, next?, afterBlanks_gap_append_solid c.gap c.clause.startsSolid,
    htokens]
  rfl

/-! ## The end of the text -/

section

variable {p : Token → Bool} [IsSolid p]

theorem kind_ne_endOfText (t : TokenOf p) : t.1.kind ≠ .endOfText :=
  IsSolid.kind_ne_endOfText t.1 t.2

end

theorem Gap.kind_ne_endOfText (gap : Gap) : ∀ t ∈ gap.tokens, t.kind ≠ .endOfText := by
  intro t ht
  have hblank := gap.isBlank_of_mem t ht
  rw [eq_of_beq hblank]
  decide

mutual

theorem ValuePhrase.kind_ne_endOfText (v : ValuePhrase) : ∀ t ∈ v.tokens, t.kind ≠ .endOfText := by
  match v with
  | .literal t =>
    simp only [ValuePhrase.tokens, List.forall_mem_singleton]
    exact Syntax.kind_ne_endOfText t
  | .emptyList opening gap closing =>
    simp only [ValuePhrase.tokens, List.forall_mem_cons, List.forall_mem_append]
    exact ⟨Syntax.kind_ne_endOfText opening, gap.kind_ne_endOfText,
      Syntax.kind_ne_endOfText closing, nofun⟩
  | .list opening gap items =>
    simp only [ValuePhrase.tokens, List.forall_mem_cons, List.forall_mem_append]
    exact ⟨Syntax.kind_ne_endOfText opening, gap.kind_ne_endOfText, items.kind_ne_endOfText⟩

theorem ItemPhrases.kind_ne_endOfText (is : ItemPhrases) :
    ∀ t ∈ is.tokens, t.kind ≠ .endOfText := by
  match is with
  | .last item gap closing =>
    simp only [ItemPhrases.tokens, List.forall_mem_append, List.forall_mem_singleton]
    exact ⟨item.kind_ne_endOfText, gap.kind_ne_endOfText, Syntax.kind_ne_endOfText closing⟩
  | .more item gap comma gap' items =>
    simp only [ItemPhrases.tokens, List.forall_mem_cons, List.forall_mem_append]
    exact ⟨item.kind_ne_endOfText, gap.kind_ne_endOfText, Syntax.kind_ne_endOfText comma,
      gap'.kind_ne_endOfText, items.kind_ne_endOfText⟩

end

theorem FilterPhrase.kind_ne_endOfText (f : FilterPhrase) :
    ∀ t ∈ f.tokens, t.kind ≠ .endOfText := by
  simp only [tokens, List.forall_mem_cons, List.forall_mem_append]
  exact ⟨Syntax.kind_ne_endOfText f.field, f.beforeOperator.kind_ne_endOfText,
    Syntax.kind_ne_endOfText f.operator, f.beforeOperand.kind_ne_endOfText,
    f.operand.kind_ne_endOfText⟩

theorem OrderPhrase.kind_ne_endOfText (o : OrderPhrase) :
    ∀ t ∈ o.tokens, t.kind ≠ .endOfText := by
  obtain ⟨word, gap, byWord, gap', field, direction⟩ := o
  have hdirection : ∀ t ∈ direction.elim [] DirectionPhrase.tokens, t.kind ≠ .endOfText := by
    cases direction with
    | none => nofun
    | some d =>
      simp only [Option.elim_some, DirectionPhrase.tokens, List.forall_mem_append,
        List.forall_mem_singleton]
      exact ⟨d.gap.kind_ne_endOfText, Syntax.kind_ne_endOfText d.word⟩
  simp only [tokens, List.forall_mem_cons, List.forall_mem_append]
  exact ⟨Syntax.kind_ne_endOfText (p := fun t => t.isWord "order") word, gap.kind_ne_endOfText,
    Syntax.kind_ne_endOfText (p := fun t => t.isWord "by") byWord, gap'.kind_ne_endOfText,
    Syntax.kind_ne_endOfText field, hdirection⟩

theorem FurtherName.kind_ne_endOfText (n : FurtherName) :
    ∀ t ∈ n.tokens, t.kind ≠ .endOfText := by
  simp only [tokens, List.forall_mem_cons, List.forall_mem_append]
  exact ⟨n.beforeComma.kind_ne_endOfText,
    Syntax.kind_ne_endOfText (p := fun t => t.kind == .comma) n.comma,
    n.beforeName.kind_ne_endOfText, Syntax.kind_ne_endOfText n.name, nofun⟩

theorem Clause.kind_ne_endOfText (c : Clause) : ∀ t ∈ c.tokens, t.kind ≠ .endOfText := by
  cases c with
  | filter connective f =>
    cases connective with
    | none => exact f.kind_ne_endOfText
    | some c =>
      simp only [tokens, List.forall_mem_cons, List.forall_mem_append]
      exact ⟨Syntax.kind_ne_endOfText c.word, c.gap.kind_ne_endOfText, f.kind_ne_endOfText⟩
  | order o => exact o.kind_ne_endOfText
  | limit l =>
    simp only [tokens, LimitPhrase.tokens, List.forall_mem_cons, List.forall_mem_append]
    exact ⟨Syntax.kind_ne_endOfText (p := fun t => t.isWord "limit") l.word,
      l.gap.kind_ne_endOfText, Syntax.kind_ne_endOfText (p := fun t => t.kind == .number) l.number,
      nofun⟩
  | select s =>
    have hfurther : ∀ t ∈ s.further.flatMap FurtherName.tokens, t.kind ≠ .endOfText := by
      intro t ht
      obtain ⟨n, -, hn⟩ := List.mem_flatMap.1 ht
      exact n.kind_ne_endOfText t hn
    simp only [tokens, SelectPhrase.tokens, List.forall_mem_cons, List.forall_mem_append]
    exact ⟨Syntax.kind_ne_endOfText (p := fun t => t.isWord "select") s.word,
      s.gap.kind_ne_endOfText, Syntax.kind_ne_endOfText s.first, hfurther⟩
  | render r =>
    simp only [tokens, RenderPhrase.tokens, List.forall_mem_cons, List.forall_mem_append]
    exact ⟨Syntax.kind_ne_endOfText (p := fun t => t.isWord "render") r.word,
      r.gap.kind_ne_endOfText, Syntax.kind_ne_endOfText r.target, nofun⟩

theorem QueryPhrase.kind_ne_endOfText (q : QueryPhrase) : ∀ t ∈ q.tokens, t.kind ≠ .endOfText := by
  have hclauses : ∀ t ∈ q.clauses.flatMap SpacedClause.tokens, t.kind ≠ .endOfText := by
    intro t ht
    obtain ⟨c, -, hc⟩ := List.mem_flatMap.1 ht
    rcases List.mem_append.1 hc with hc | hc
    · exact c.gap.kind_ne_endOfText t hc
    · exact c.clause.kind_ne_endOfText t hc
  simp only [tokens, List.forall_mem_cons]
  exact ⟨Syntax.kind_ne_endOfText q.table, hclauses⟩

end NoteQuery.Syntax
