import NoteQuery.Proofs.Decoding
import NoteQuery.Proofs.Loosening

/-!
# Queries with more white space

Tokens with a derivation keep it when they are loosened: each phrase is found again, behind white
space, with its tokens at other places and with other gaps (`ValuePhrase.exists_loosened` up to
`Program.exists_loosened`). Nothing that a query is read from depends on places and gaps
(`QueryPhrase.toOption_meaning_eq`). So a text that is a query stays the same query with white space
between its tokens (`Query.ofText_loosened`).
-/

namespace NoteQuery.Syntax

/-! ## Classes of tokens -/

/-- A class that does not ask where a token stands. -/
class IsPlaceless (p : Token → Bool) : Prop where
  moved_eq (t : Token) (start : Nat) : p (t.moved start) = p t

instance : IsPlaceless isName := ⟨fun _ _ => rfl⟩
instance : IsPlaceless isLiteral := ⟨fun _ _ => rfl⟩
instance : IsPlaceless isComparison := ⟨fun _ _ => rfl⟩
instance : IsPlaceless isConnective := ⟨fun _ _ => rfl⟩
instance : IsPlaceless isDirection := ⟨fun _ _ => rfl⟩
instance : IsPlaceless isTarget := ⟨fun _ _ => rfl⟩
instance (word : String) : IsPlaceless (fun t => t.isWord word) := ⟨fun _ _ => rfl⟩
instance (kind : TokenKind) : IsPlaceless (fun t => t.kind == kind) := ⟨fun _ _ => rfl⟩

section

variable {p : Token → Bool} [IsPlaceless p]

/-- A token of a class at another place. -/
def movedTo (start : Nat) (t : TokenOf p) : TokenOf p :=
  ⟨t.1.moved start, (IsPlaceless.moved_eq t.1 start).trans t.2⟩

variable [IsSolid p] {ts ts' : List Token}

theorem Loosened.exists_token {t : TokenOf p} (h : Loosened (t.1 :: ts) ts') :
    ∃ (gap : Gap) (start : Nat) (rest : List Token),
      ts' = gap.tokens ++ (movedTo start t).1 :: rest ∧ Loosened ts rest :=
  h.exists_of_cons (isBlank_eq_false t)

/-- White space in front of a token may be there or not. -/
theorem Loosened.exists_spaced {t : TokenOf p} {gap : Gap}
    (h : Loosened (gap.tokens ++ t.1 :: ts) ts') :
    ∃ (gap' : Gap) (start : Nat) (rest : List Token),
      ts' = gap'.tokens ++ (movedTo start t).1 :: rest ∧ Loosened ts rest :=
  (h.of_gap gap).exists_token

end

/-! ## Values -/

mutual

theorem ValuePhrase.exists_loosened (v : ValuePhrase) {ts ts' : List Token}
    (h : Loosened (v.tokens ++ ts) ts') :
    ∃ (gap : Gap) (v' : ValuePhrase) (rest : List Token),
      ts' = gap.tokens ++ (v'.tokens ++ rest) ∧ v'.meaning = v.meaning ∧ Loosened ts rest := by
  match v with
  | .literal t =>
    rw [ValuePhrase.tokens] at h
    obtain ⟨gap, start, rest, rfl, hrest⟩ := h.exists_token
    refine ⟨gap, .literal (movedTo start t), rest, by rw [ValuePhrase.tokens]; rfl, ?_, hrest⟩
    rw [ValuePhrase.meaning, ValuePhrase.meaning]
    rfl
  | .emptyList opening gap closing =>
    rw [ValuePhrase.tokens, List.cons_append, List.append_assoc] at h
    obtain ⟨gap₁, start, rest, rfl, h₁⟩ := h.exists_token
    obtain ⟨gap₂, start', rest, rfl, hrest⟩ := h₁.exists_spaced
    refine ⟨gap₁, .emptyList (movedTo start opening) gap₂ (movedTo start' closing), rest, ?_, ?_,
      hrest⟩
    · simp [ValuePhrase.tokens]
    · rw [ValuePhrase.meaning, ValuePhrase.meaning]
  | .list opening gap items =>
    rw [ValuePhrase.tokens, List.cons_append, List.append_assoc] at h
    obtain ⟨gap₁, start, rest, rfl, h₁⟩ := h.exists_token
    obtain ⟨gap₂, items', rest, rfl, hitems, hrest⟩ := items.exists_loosened (h₁.of_gap gap)
    refine ⟨gap₁, .list (movedTo start opening) gap₂ items', rest, ?_, ?_, hrest⟩
    · simp [ValuePhrase.tokens]
    · rw [ValuePhrase.meaning, ValuePhrase.meaning, hitems]

theorem ItemPhrases.exists_loosened (is : ItemPhrases) {ts ts' : List Token}
    (h : Loosened (is.tokens ++ ts) ts') :
    ∃ (gap : Gap) (is' : ItemPhrases) (rest : List Token),
      ts' = gap.tokens ++ (is'.tokens ++ rest) ∧ is'.meanings = is.meanings ∧ Loosened ts rest := by
  match is with
  | .last item gap closing =>
    rw [ItemPhrases.tokens, List.append_assoc, List.append_assoc] at h
    obtain ⟨gap₁, item', rest, rfl, hitem, h₁⟩ := item.exists_loosened h
    obtain ⟨gap₂, start, rest, rfl, hrest⟩ := h₁.exists_spaced
    refine ⟨gap₁, .last item' gap₂ (movedTo start closing), rest, ?_, ?_, hrest⟩
    · simp [ItemPhrases.tokens]
    · rw [ItemPhrases.meanings, ItemPhrases.meanings, hitem]
  | .more item gap comma gap' items =>
    rw [ItemPhrases.tokens, List.append_assoc, List.append_assoc, List.cons_append,
      List.append_assoc] at h
    obtain ⟨gap₁, item', rest, rfl, hitem, h₁⟩ := item.exists_loosened h
    obtain ⟨gap₂, start, rest, rfl, h₂⟩ := h₁.exists_spaced
    obtain ⟨gap₃, items', rest, rfl, hitems, hrest⟩ := items.exists_loosened (h₂.of_gap gap')
    refine ⟨gap₁, .more item' gap₂ (movedTo start comma) gap₃ items', rest, ?_, ?_, hrest⟩
    · simp [ItemPhrases.tokens]
    · rw [ItemPhrases.meanings, ItemPhrases.meanings, hitem, hitems]

end

/-! ## Clauses -/

/-- What a query is read from in a clause, and what the clauses beside it ask of it. -/
structure ClauseView where
  filter? : Option Filter
  order? : Option (String × Bool)
  limit? : Option Binary64
  select? : Option (List String)
  render? : Option String
  lacksDirection : Bool
  startsLikeDirection : Bool

/-- Whether one clause may stand behind the other. -/
def ClauseView.MayPrecede (v next : ClauseView) : Prop :=
  v.lacksDirection = true → next.startsLikeDirection = false

def Clause.view (c : Clause) : ClauseView where
  filter? := c.filter?.map FilterPhrase.meaning
  order? := c.order?.map OrderPhrase.meaning
  limit? := c.limit?.map (fun l => numberOf l.number.1)
  select? := c.select?.map SelectPhrase.meaning
  render? := c.render?.map RenderPhrase.meaning
  lacksDirection := c.lacksDirection
  startsLikeDirection := c.startsLikeDirection

section

variable {ts ts' : List Token}

theorem FilterPhrase.exists_loosened (f : FilterPhrase) (h : Loosened (f.tokens ++ ts) ts') :
    ∃ (gap : Gap) (f' : FilterPhrase) (rest : List Token),
      ts' = gap.tokens ++ (f'.tokens ++ rest) ∧ f'.meaning = f.meaning ∧
      isDirection f'.field.1 = isDirection f.field.1 ∧ Loosened ts rest := by
  rw [FilterPhrase.tokens, List.cons_append, List.append_assoc, List.cons_append,
    List.append_assoc] at h
  obtain ⟨gap, start, rest, rfl, h₁⟩ := h.exists_token
  obtain ⟨gap₁, start', rest, rfl, h₂⟩ := h₁.exists_spaced
  obtain ⟨gap₂, v, rest, rfl, hv, hrest⟩ := f.operand.exists_loosened (h₂.of_gap f.beforeOperand)
  refine ⟨gap, ⟨movedTo start f.field, gap₁, movedTo start' f.operator, gap₂, v⟩, rest, ?_, ?_, rfl,
    hrest⟩
  · simp [FilterPhrase.tokens]
  · rw [FilterPhrase.meaning, FilterPhrase.meaning, hv]
    rfl

theorem DirectionPhrase.exists_loosened (d : DirectionPhrase) (h : Loosened (d.tokens ++ ts) ts') :
    ∃ (d' : DirectionPhrase) (rest : List Token), ts' = d'.tokens ++ rest ∧
      d'.word.1.text = d.word.1.text ∧ Loosened ts rest := by
  rw [DirectionPhrase.tokens, List.append_assoc] at h
  obtain ⟨gap, start, rest, rfl, hrest⟩ := h.exists_spaced
  exact ⟨⟨gap, movedTo start d.word⟩, rest, by simp [DirectionPhrase.tokens], rfl, hrest⟩

theorem OrderPhrase.exists_loosened (o : OrderPhrase) (h : Loosened (o.tokens ++ ts) ts') :
    ∃ (gap : Gap) (o' : OrderPhrase) (rest : List Token),
      ts' = gap.tokens ++ (o'.tokens ++ rest) ∧ o'.meaning = o.meaning ∧
      o'.direction.isNone = o.direction.isNone ∧ Loosened ts rest := by
  obtain ⟨word, beforeBy, byWord, beforeField, field, direction⟩ := o
  simp only [OrderPhrase.tokens, List.cons_append, List.append_assoc] at h
  obtain ⟨gap, start, rest, rfl, h₁⟩ := h.exists_token
  obtain ⟨gap₁, start₁, rest, rfl, h₂⟩ := h₁.exists_spaced
  obtain ⟨gap₂, start₂, rest, rfl, h₃⟩ := h₂.exists_spaced
  cases direction with
  | none =>
    refine ⟨gap,
      ⟨movedTo start word, gap₁, movedTo start₁ byWord, gap₂, movedTo start₂ field, none⟩, rest, ?_,
      rfl, rfl, h₃⟩
    simp [OrderPhrase.tokens]
  | some d =>
    obtain ⟨d', rest, rfl, hd, h₄⟩ := d.exists_loosened h₃
    refine ⟨gap,
      ⟨movedTo start word, gap₁, movedTo start₁ byWord, gap₂, movedTo start₂ field, some d'⟩, rest,
      ?_, ?_, rfl, h₄⟩
    · simp [OrderPhrase.tokens]
    · rw [OrderPhrase.meaning, OrderPhrase.meaning, Option.elim_some, Option.elim_some, hd]
      rfl

theorem LimitPhrase.exists_loosened (l : LimitPhrase) (h : Loosened (l.tokens ++ ts) ts') :
    ∃ (gap : Gap) (l' : LimitPhrase) (rest : List Token),
      ts' = gap.tokens ++ (l'.tokens ++ rest) ∧ numberOf l'.number.1 = numberOf l.number.1 ∧
      Loosened ts rest := by
  rw [LimitPhrase.tokens, List.cons_append, List.append_assoc] at h
  obtain ⟨gap, start, rest, rfl, h₁⟩ := h.exists_token
  obtain ⟨gap₁, start₁, rest, rfl, h₂⟩ := h₁.exists_spaced
  exact ⟨gap, ⟨movedTo start l.word, gap₁, movedTo start₁ l.number⟩, rest,
    by simp [LimitPhrase.tokens], rfl, h₂⟩

theorem exists_furtherNames_loosened (names : List FurtherName)
    (h : Loosened (names.flatMap FurtherName.tokens ++ ts) ts') :
    ∃ (names' : List FurtherName) (rest : List Token),
      ts' = names'.flatMap FurtherName.tokens ++ rest ∧
      names'.map (fun n => n.name.1.text) = names.map (fun n => n.name.1.text) ∧
        Loosened ts rest := by
  induction names generalizing ts' with
  | nil => exact ⟨[], ts', rfl, rfl, h⟩
  | cons n names ih =>
    simp only [List.flatMap_cons, FurtherName.tokens, List.append_assoc, List.cons_append,
      List.nil_append] at h
    obtain ⟨gap, start, rest, rfl, h₁⟩ := h.exists_spaced
    obtain ⟨gap', start', rest, rfl, h₂⟩ := h₁.exists_spaced
    obtain ⟨names', rest, rfl, hnames, h₃⟩ := ih h₂
    refine ⟨⟨gap, movedTo start n.comma, gap', movedTo start' n.name⟩ :: names', rest, ?_, ?_, h₃⟩
    · simp [FurtherName.tokens]
    · rw [List.map_cons, List.map_cons, hnames]
      rfl

theorem SelectPhrase.exists_loosened (s : SelectPhrase) (h : Loosened (s.tokens ++ ts) ts') :
    ∃ (gap : Gap) (s' : SelectPhrase) (rest : List Token),
      ts' = gap.tokens ++ (s'.tokens ++ rest) ∧ s'.meaning = s.meaning ∧ Loosened ts rest := by
  rw [SelectPhrase.tokens, List.cons_append, List.append_assoc, List.cons_append] at h
  obtain ⟨gap, start, rest, rfl, h₁⟩ := h.exists_token
  obtain ⟨gap₁, start₁, rest, rfl, h₂⟩ := h₁.exists_spaced
  obtain ⟨names, rest, rfl, hnames, h₃⟩ := exists_furtherNames_loosened s.further h₂
  refine ⟨gap, ⟨movedTo start s.word, gap₁, movedTo start₁ s.first, names⟩, rest, ?_, ?_, h₃⟩
  · simp [SelectPhrase.tokens]
  · rw [SelectPhrase.meaning, SelectPhrase.meaning, hnames]
    rfl

theorem RenderPhrase.exists_loosened (r : RenderPhrase) (h : Loosened (r.tokens ++ ts) ts') :
    ∃ (gap : Gap) (r' : RenderPhrase) (rest : List Token),
      ts' = gap.tokens ++ (r'.tokens ++ rest) ∧ r'.meaning = r.meaning ∧ Loosened ts rest := by
  rw [RenderPhrase.tokens, List.cons_append, List.append_assoc] at h
  obtain ⟨gap, start, rest, rfl, h₁⟩ := h.exists_token
  obtain ⟨gap₁, start₁, rest, rfl, h₂⟩ := h₁.exists_spaced
  exact ⟨gap, ⟨movedTo start r.word, gap₁, movedTo start₁ r.target⟩, rest,
    by simp [RenderPhrase.tokens], rfl, h₂⟩

theorem Clause.exists_loosened (c : Clause) (h : Loosened (c.tokens ++ ts) ts') :
    ∃ (gap : Gap) (c' : Clause) (rest : List Token),
      ts' = gap.tokens ++ (c'.tokens ++ rest) ∧ c'.view = c.view ∧ Loosened ts rest := by
  cases c with
  | filter connective f =>
    cases connective with
    | none =>
      obtain ⟨gap, f', rest, rfl, hf, hdirection, h₁⟩ := f.exists_loosened h
      refine ⟨gap, .filter none f', rest, rfl, ?_, h₁⟩
      simp [view, filter?, order?, limit?, select?, render?, lacksDirection, startsLikeDirection,
        hf, hdirection]
    | some c =>
      rw [tokens, List.cons_append, List.append_assoc] at h
      obtain ⟨gap, start, rest, rfl, h₁⟩ := h.exists_token
      obtain ⟨gap₁, f', rest, rfl, hf, -, h₂⟩ := f.exists_loosened (h₁.of_gap c.gap)
      refine ⟨gap, .filter (some ⟨movedTo start c.word, gap₁⟩) f', rest, ?_, ?_, h₂⟩
      · simp [tokens]
      · simp [view, filter?, order?, limit?, select?, render?, lacksDirection, startsLikeDirection,
          hf]
  | order o =>
    obtain ⟨gap, o', rest, rfl, ho, hdirection, h₁⟩ := o.exists_loosened h
    refine ⟨gap, .order o', rest, rfl, ?_, h₁⟩
    simp [view, filter?, order?, limit?, select?, render?, lacksDirection, startsLikeDirection, ho,
      hdirection]
  | limit l =>
    obtain ⟨gap, l', rest, rfl, hl, h₁⟩ := l.exists_loosened h
    refine ⟨gap, .limit l', rest, rfl, ?_, h₁⟩
    simp [view, filter?, order?, limit?, select?, render?, lacksDirection, startsLikeDirection, hl]
  | select s =>
    obtain ⟨gap, s', rest, rfl, hs, h₁⟩ := s.exists_loosened h
    refine ⟨gap, .select s', rest, rfl, ?_, h₁⟩
    simp [view, filter?, order?, limit?, select?, render?, lacksDirection, startsLikeDirection, hs]
  | render r =>
    obtain ⟨gap, r', rest, rfl, hr, h₁⟩ := r.exists_loosened h
    refine ⟨gap, .render r', rest, rfl, ?_, h₁⟩
    simp [view, filter?, order?, limit?, select?, render?, lacksDirection, startsLikeDirection, hr]

/-- A clause needs white space in front, and there is still some. -/
theorem SpacedClause.exists_loosened (c : SpacedClause) (h : Loosened (c.tokens ++ ts) ts') :
    ∃ (c' : SpacedClause) (rest : List Token),
      ts' = c'.tokens ++ rest ∧ c'.clause.view = c.clause.view ∧ Loosened ts rest := by
  rw [tokens, List.append_assoc] at h
  obtain ⟨gap, clause, rest, rfl, hview, hrest⟩ := c.clause.exists_loosened (h.of_gap c.gap)
  refine ⟨⟨gap, fun hgap => ?_, clause⟩, rest, by simp [tokens], hview, hrest⟩
  -- the tokens would begin with white space and with the first token of a clause
  obtain ⟨b, others, hb⟩ := List.exists_cons_of_ne_nil c.gap_ne_nil
  have hblank : isBlank b = true := c.gap.isBlank_of_mem b (by rw [hb]; exact List.mem_cons_self ..)
  obtain ⟨t, more, htokens, hsolid⟩ := clause.startsSolid
  rw [hb, hgap, htokens] at h
  obtain ⟨b', others', heq, hblank'⟩ := h.exists_of_blank hblank
  obtain rfl := (List.cons.inj heq).1
  rw [hsolid] at hblank'
  cases hblank'

theorem exists_clauses_loosened (cs : List SpacedClause)
    (h : Loosened (cs.flatMap SpacedClause.tokens ++ ts) ts') :
    ∃ (cs' : List SpacedClause) (rest : List Token),
      ts' = cs'.flatMap SpacedClause.tokens ++ rest ∧
      cs'.map (fun c => c.clause.view) = cs.map (fun c => c.clause.view) ∧ Loosened ts rest := by
  induction cs generalizing ts' with
  | nil => exact ⟨[], ts', rfl, rfl, h⟩
  | cons c cs ih =>
    rw [List.flatMap_cons, List.append_assoc] at h
    obtain ⟨c', rest, rfl, hview, h₁⟩ := c.exists_loosened h
    obtain ⟨cs', rest, rfl, hviews, h₂⟩ := ih h₁
    refine ⟨c' :: cs', rest, by simp, ?_, h₂⟩
    rw [List.map_cons, List.map_cons, hview, hviews]

end

/-! ## Queries -/

namespace QueryPhrase

/-- What the query is read from in its clauses. -/
def views (q : QueryPhrase) : List ClauseView := q.clauses.map (fun c => c.clause.view)

/-- The query of a table but for its limit. -/
def queryOf (table : String) (views : List ClauseView) (limit : Option Nat) : Query where
  table := table
  filters := views.filterMap ClauseView.filter?
  orderBy := (views.findSome? ClauseView.order?).map Prod.fst
  descending := ((views.findSome? ClauseView.order?).map Prod.snd).getD false
  limit := limit
  select := views.findSome? ClauseView.select?
  render := views.findSome? ClauseView.render?

theorem findSome?_views (q : QueryPhrase) {α β : Type} {kind : Clause → Option α} {meaning : α → β}
    (part : ClauseView → Option β) (hpart : ∀ c, part (Clause.view c) = (kind c).map meaning) :
    q.views.findSome? part = (q.first? kind).map meaning := by
  rw [views, List.findSome?_map, first?, List.map_findSome?]
  exact congrArg (List.findSome? · q.clauses) (funext fun c => hpart c.clause)

theorem withLimit_eq_queryOf (q : QueryPhrase) (limit : Option Nat) :
    q.withLimit limit = queryOf q.table.1.text q.views limit := by
  have hfilters : q.views.filterMap ClauseView.filter? =
      (q.clauses.filterMap (fun c => c.clause.filter?)).map FilterPhrase.meaning := by
    rw [views, List.filterMap_map, List.map_filterMap]
    rfl
  have horder := q.findSome?_views ClauseView.order? (fun _ => rfl)
  have hselect := q.findSome?_views ClauseView.select? (fun _ => rfl)
  have hrender := q.findSome?_views ClauseView.render? (fun _ => rfl)
  rw [withLimit, queryOf, hfilters, horder, hselect, hrender, Option.map_map, Option.map_map]
  rfl

/-- What a derivation means is read from its table and from the views of its clauses. -/
theorem toOption_meaning (q : QueryPhrase) :
    q.meaning.toOption = (q.views.findSome? ClauseView.limit?).elim
      (some (queryOf q.table.1.text q.views none))
      (fun x => (Tree.admissibleLimit? x).map
        (fun n => queryOf q.table.1.text q.views (some n))) := by
  have hlimit := q.findSome?_views ClauseView.limit? (fun _ => rfl)
  rw [hlimit, meaning]
  cases q.first? Clause.limit? with
  | none => exact congrArg some (q.withLimit_eq_queryOf none)
  | some l =>
    rw [Option.map_some, Option.elim_some]
    dsimp only [LimitPhrase.meaning]
    cases Tree.admissibleLimit? (numberOf l.number.1) with
    | none => rfl
    | some n => exact congrArg some (q.withLimit_eq_queryOf (some n))

theorem isChain_views_iff (cs : List SpacedClause) :
    (cs.map (fun c => c.clause.view)).IsChain ClauseView.MayPrecede ↔
      cs.IsChain SpacedClause.MayPrecede :=
  List.isChain_map _

theorem exists_loosened (q : QueryPhrase) {ts ts' : List Token}
    (h : Loosened (q.tokens ++ ts) ts') :
    ∃ (gap : Gap) (q' : QueryPhrase) (rest : List Token),
      ts' = gap.tokens ++ (q'.tokens ++ rest) ∧ q'.meaning.toOption = q.meaning.toOption ∧
      Loosened ts rest := by
  rw [tokens, List.cons_append] at h
  obtain ⟨gap, start, rest, rfl, h₁⟩ := h.exists_token
  obtain ⟨cs, rest, rfl, hviews, h₂⟩ := exists_clauses_loosened q.clauses h₁
  -- which clauses may stand side by side is seen from their views
  have hchain : cs.IsChain SpacedClause.MayPrecede := by
    rw [← isChain_views_iff, hviews, isChain_views_iff]
    exact q.isChain
  refine ⟨gap, ⟨movedTo start q.table, cs, hchain⟩, rest, by simp [tokens], ?_, h₂⟩
  rw [toOption_meaning, toOption_meaning, views, hviews]
  rfl

end QueryPhrase

/-- Tokens of a text that are derived are derived when they are loosened, with the same meaning. -/
theorem Program.exists_loosened (p : Program) {tokens' : List Token} (hread : WellRead tokens')
    (h : Loosened p.tokens tokens') :
    ∃ p' : Program, tokens' = p'.tokens ∧ p'.query.meaning.toOption = p.query.meaning.toOption := by
  have hfinish : isBlank p.finish.1 = false := by simp [isBlank, eq_of_beq p.finish.2]
  obtain ⟨gap, q, rest, rfl, hmeaning, h₁⟩ := p.query.exists_loosened (h.of_gap p.lead)
  obtain ⟨gap', start, rest, rfl, h₂⟩ := (h₁.of_gap p.trail).exists_of_cons hfinish
  -- behind the end of the text there is nothing
  have hfront : ∀ t ∈ gap.tokens ++ (q.tokens ++ gap'.tokens), t.kind ≠ .endOfText := by
    simp only [List.forall_mem_append]
    exact ⟨gap.kind_ne_endOfText, q.kind_ne_endOfText, gap'.kind_ne_endOfText⟩
  have hsplit : gap.tokens ++ (q.tokens ++ (gap'.tokens ++ p.finish.1.moved start :: rest)) =
      (gap.tokens ++ (q.tokens ++ gap'.tokens)) ++ p.finish.1.moved start :: rest := by
    simp only [List.append_assoc]
  have hatEnd : atEnd (p.finish.1.moved start :: rest) = true := p.finish.2
  obtain ⟨finish, hrest⟩ := eq_singleton_of_atEnd (hsplit ▸ hread) hfront hatEnd
  exact ⟨⟨gap, q, gap', finish⟩, by rw [hrest]; rfl, hmeaning⟩

end NoteQuery.Syntax

namespace NoteQuery

open Syntax

/-- A text is the query that a derivation of its tokens means. -/
theorem Query.toOption_ofText {source : String} {p : Program}
    (hp : tokenize source = .ok p.tokens) :
    (Query.ofText source).toOption = p.query.meaning.toOption := by
  have hspelled : AllSpelled p.tokens := (wellRead_of_tokenize hp).admits
  rw [Query.ofText, Tree.ofSource, hp, ok_bind, program_tokens, ok_bind, p.ofTree_tree _ hspelled]
  cases p.query.meaning <;> rfl

/-- A text is a query exactly if its tokens have a derivation that means the query. -/
theorem Query.ofText_eq_ok_iff {source : String} {q : Query} :
    Query.ofText source = .ok q ↔
      ∃ p : Program, tokenize source = .ok p.tokens ∧ p.query.meaning = .ok q := by
  constructor
  · intro h
    obtain ⟨tree, htree, -⟩ := exists_of_bind h
    obtain ⟨tokens, htokens, hprogram⟩ := exists_of_bind htree
    obtain ⟨p, rfl, -⟩ := exists_of_program (wellRead_of_tokenize htokens) hprogram
    refine ⟨p, htokens, toOption_eq_some_iff.1 ?_⟩
    rw [← toOption_ofText htokens, toOption_eq_some_iff, h]
  · rintro ⟨p, hp, hmeaning⟩
    rw [← toOption_eq_some_iff, toOption_ofText hp, toOption_eq_some_iff, hmeaning]

/-- White space is invisible between the tokens of a query, in front of them and behind them: a text
with more of it, or with other white space in the place of its own, is the same query. -/
theorem Query.ofText_loosened {s s' : String} (hs : Lexer.Loosened s.toList s'.toList) {q : Query}
    (hq : Query.ofText s = .ok q) : Query.ofText s' = .ok q := by
  obtain ⟨tree, htree, -⟩ := exists_of_bind hq
  obtain ⟨tokens, htokens, hprogram⟩ := exists_of_bind htree
  obtain ⟨p, rfl, -⟩ := exists_of_program (wellRead_of_tokenize htokens) hprogram
  obtain ⟨tokens', htokens', hloosened⟩ := Lexer.readsLoosely_of_loosened hs htokens 0
  -- errors name places, so only the queries are compared
  obtain ⟨p', rfl, hmeaning⟩ := p.exists_loosened (wellRead_of_tokenize htokens') hloosened
  have hoption : (Query.ofText s').toOption = some q := by
    rw [toOption_ofText htokens', hmeaning, ← toOption_ofText htokens, hq]
    rfl
  cases hq' : Query.ofText s' with
  | error e =>
    rw [hq'] at hoption
    cases hoption
  | ok q' =>
    rw [hq'] at hoption
    exact congrArg Except.ok (Option.some.inj hoption)

/-- A query with a token at each end and no white space around the comparison, and one with white
space wherever it may stand. -/
theorem Query.ofText_loosened_comparison :
    Lexer.Loosened "t a<-5".toList "\nt\t\n a < -5 ".toList ∧
      ∃ q, Query.ofText "t a<-5" = .ok q ∧ Query.ofText "\nt\t\n a < -5 " = .ok q := by
  have hspace : Lexer.IsGap [' '] := ⟨nofun, List.all_eq_true.1 rfl⟩
  have hline : Lexer.IsGap ['\n'] := ⟨nofun, List.all_eq_true.1 rfl⟩
  have hlines : Lexer.IsGap ['\t', '\n', ' '] := ⟨nofun, List.all_eq_true.1 rfl⟩
  have hnumber : Lexer.Loosened "-5".toList "-5 ".toList :=
    .kept (l := ⟨.number, ['-', '5'], []⟩) rfl (.inserted hspace .nil)
  have hfilter : Lexer.Loosened "a<-5".toList "a < -5 ".toList :=
    .kept (l := ⟨.identifier, ['a'], "<-5".toList⟩) rfl <| .inserted hspace <|
      .kept (l := ⟨.operator, ['<'], "-5".toList⟩) rfl <| .inserted hspace hnumber
  have hs : Lexer.Loosened "t a<-5".toList "\nt\t\n a < -5 ".toList :=
    .inserted hline <| .kept (l := ⟨.identifier, ['t'], " a<-5".toList⟩) rfl <|
      .replaced (l := ⟨.blank, [' '], "a<-5".toList⟩) rfl rfl hlines hfilter
  have haccepted : (Query.ofText "t a<-5").isOk = true := by decide +kernel
  refine ⟨hs, ?_⟩
  cases hq : Query.ofText "t a<-5" with
  | error e => rw [hq] at haccepted; cases haccepted
  | ok q => exact ⟨q, rfl, ofText_loosened hs hq⟩

end NoteQuery
