import NoteQuery.Proofs.Meaning
import NoteQuery.Proofs.OrderedMaps

/-!
# Where page references stand

A page reference among the tokens of a query is the value of a filter or part of one, or else the
target of a render clause. So a query that renders no records, and whose filters have values without
page references, has no token that is one (`Program.holdsNoPage`).
-/

namespace NoteQuery

/-- No page reference is in a value. -/
def Value.LacksPages (v : Value) : Prop := ∀ page, .pageRef page ∉ v.parts

theorem Value.lacksPages_list_iff {items : List Value} :
    (Value.list items).LacksPages ↔ ∀ item ∈ items, item.LacksPages := by
  simp only [Value.LacksPages, Value.mem_parts_list_iff]
  grind

namespace Syntax

/-- No token is a page reference. -/
def HoldsNoPage (tokens : List Token) : Prop := ∀ t ∈ tokens, t.kind ≠ .pageRef

@[simp] theorem holdsNoPage_nil : HoldsNoPage [] := List.forall_mem_nil _

@[simp] theorem holdsNoPage_cons_iff {t : Token} {tokens : List Token} :
    HoldsNoPage (t :: tokens) ↔ t.kind ≠ .pageRef ∧ HoldsNoPage tokens := List.forall_mem_cons

@[simp] theorem holdsNoPage_append_iff {tokens tokens' : List Token} :
    HoldsNoPage (tokens ++ tokens') ↔ HoldsNoPage tokens ∧ HoldsNoPage tokens' :=
  List.forall_mem_append

@[simp] theorem Gap.holdsNoPage (gap : Gap) : HoldsNoPage gap.tokens := by
  intro t ht
  have hblank : t.kind = .blank := eq_of_beq (gap.isBlank_of_mem t ht)
  rw [hblank]
  decide

theorem kind_ne_pageRef_of_isName (t : TokenOf isName) : t.1.kind ≠ .pageRef := by
  rw [kind_of_isName t.2]
  decide

theorem kind_ne_pageRef_of_isWord {word : String} (t : Word word) : t.1.kind ≠ .pageRef := by
  rw [kind_of_isWord t.2]
  decide

theorem kind_ne_pageRef_of_ofKind (kind : TokenKind) (h : kind ≠ .pageRef) (t : OfKind kind) :
    t.1.kind ≠ .pageRef := by
  rw [eq_of_beq t.2]
  exact h

theorem kind_ne_pageRef_of_isComparison (t : TokenOf isComparison) : t.1.kind ≠ .pageRef := by
  rcases Bool.or_eq_true_iff.1 t.2 with hoperator | hin
  · rw [eq_of_beq hoperator]
    decide
  · rw [kind_of_isWord hin]
    decide

mutual

theorem ValuePhrase.holdsNoPage (v : ValuePhrase) (h : v.meaning.LacksPages) :
    HoldsNoPage v.tokens := by
  match v with
  | .literal t =>
    rw [ValuePhrase.tokens, holdsNoPage_cons_iff]
    refine ⟨fun hkind => ?_, holdsNoPage_nil⟩
    rw [ValuePhrase.meaning, literalMeaning, hkind] at h
    exact h (inside 2 t.1.text) (List.mem_singleton_self _)
  | .emptyList opening gap closing =>
    simp [ValuePhrase.tokens, kind_ne_pageRef_of_ofKind .leftBracket (by decide) opening,
      kind_ne_pageRef_of_ofKind .rightBracket (by decide) closing]
  | .list opening gap is =>
    rw [ValuePhrase.meaning, Value.lacksPages_list_iff] at h
    simp [ValuePhrase.tokens, is.holdsNoPage h,
      kind_ne_pageRef_of_ofKind .leftBracket (by decide) opening]

theorem ItemPhrases.holdsNoPage (is : ItemPhrases) (h : ∀ x ∈ is.meanings, x.LacksPages) :
    HoldsNoPage is.tokens := by
  match is with
  | .last v gap closing =>
    rw [ItemPhrases.meanings, List.forall_mem_singleton] at h
    simp [ItemPhrases.tokens, v.holdsNoPage h,
      kind_ne_pageRef_of_ofKind .rightBracket (by decide) closing]
  | .more v gap comma gap' is =>
    rw [ItemPhrases.meanings, List.forall_mem_cons] at h
    simp [ItemPhrases.tokens, v.holdsNoPage h.1, is.holdsNoPage h.2,
      kind_ne_pageRef_of_ofKind .comma (by decide) comma]

end

theorem FilterPhrase.holdsNoPage (f : FilterPhrase) (h : f.meaning.value.LacksPages) :
    HoldsNoPage f.tokens := by
  simp [tokens, f.operand.holdsNoPage h, kind_ne_pageRef_of_isName,
    kind_ne_pageRef_of_isComparison]

theorem OrderPhrase.holdsNoPage (o : OrderPhrase) : HoldsNoPage o.tokens := by
  have hdirection : HoldsNoPage (o.direction.elim [] DirectionPhrase.tokens) := by
    cases o.direction with
    | none => exact holdsNoPage_nil
    | some d =>
      have hword : d.word.1.kind ≠ .pageRef := by
        rw [kind_of_isDirection d.word.2]
        decide
      simp [DirectionPhrase.tokens, hword]
  simp [tokens, hdirection, kind_ne_pageRef_of_isName, kind_ne_pageRef_of_isWord]

theorem SelectPhrase.holdsNoPage (s : SelectPhrase) : HoldsNoPage s.tokens := by
  have hfurther : HoldsNoPage (s.further.flatMap FurtherName.tokens) := by
    intro t ht
    obtain ⟨n, -, hn⟩ := List.mem_flatMap.1 ht
    have hname : HoldsNoPage n.tokens := by
      simp [FurtherName.tokens, kind_ne_pageRef_of_isName,
        kind_ne_pageRef_of_ofKind .comma (by decide) n.comma]
    exact hname t hn
  simp [tokens, hfurther, kind_ne_pageRef_of_isName, kind_ne_pageRef_of_isWord]

/-- A page reference among the tokens of a clause is in the value of a filter, or the clause renders
records. -/
theorem Clause.holdsNoPage (c : Clause) (hfilter : ∀ f ∈ c.filter?, f.meaning.value.LacksPages)
    (hrender : c.render? = none) : HoldsNoPage c.tokens := by
  cases c with
  | filter connective f =>
    have hf := f.holdsNoPage (hfilter f rfl)
    cases connective with
    | none => exact hf
    | some connective =>
      have hword : connective.word.1.kind ≠ .pageRef := by
        rw [kind_of_isConnective connective.word.2]
        decide
      simp [tokens, hword, hf]
  | order o => exact o.holdsNoPage
  | limit l =>
    simp [tokens, LimitPhrase.tokens, kind_ne_pageRef_of_isWord,
      kind_ne_pageRef_of_ofKind .number (by decide) l.number]
  | select s => exact s.holdsNoPage
  | render r => cases hrender

/-- No page reference is among the tokens of a query that has none in its filters and renders no
records. -/
theorem Program.holdsNoPage (p : Program) {asked : Query} (hmeaning : p.query.meaning = .ok asked)
    (hfilters : ∀ f ∈ asked.filters, f.value.LacksPages) (hrender : asked.render = none) :
    HoldsNoPage p.tokens := by
  obtain ⟨limit, rfl⟩ := QueryPhrase.exists_withLimit_of_meaning hmeaning
  have hclauses : HoldsNoPage (p.query.clauses.flatMap SpacedClause.tokens) := by
    intro t ht
    obtain ⟨c, hc, ht⟩ := List.mem_flatMap.1 ht
    have hfilter : ∀ f ∈ c.clause.filter?, f.meaning.value.LacksPages := by
      intro f hf
      exact hfilters _ (List.mem_map_of_mem (List.mem_filterMap.2 ⟨c, hc, hf⟩))
    have hnone : c.clause.render? = none :=
      List.findSome?_eq_none_iff.1 (Option.map_eq_none_iff.1 hrender) c hc
    have hboth : HoldsNoPage c.tokens := by
      simp [SpacedClause.tokens, c.clause.holdsNoPage hfilter hnone]
    exact hboth t ht
  simp [tokens, QueryPhrase.tokens, hclauses, kind_ne_pageRef_of_isName,
    kind_ne_pageRef_of_ofKind .endOfText (by decide) p.finish]

end Syntax

end NoteQuery
