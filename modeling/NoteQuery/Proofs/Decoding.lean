import NoteQuery.Proofs.ClauseSearch
import NoteQuery.Proofs.Recognition

/-!
# Both stages of parsing agree

Every tree that the grammar builds is the tree of a query, unless the number of its first limit
cannot be a limit. The query is what the derivation means.
-/

namespace NoteQuery.Syntax

open NoteQuery.Tree

namespace QueryPhrase

/-! ## Reading the parts -/

theorem toTable_eq (q : QueryPhrase) (hspelled : AllSpelled q.tokens) :
    toTable q.tree.normalize = .ok q.table.1.text := by
  have hchildren := q.children_normalize hspelled
  have hkind : q.table.1.kind = .identifier := kind_of_isName q.table.2
  have hname : q.table.1.IsSpelled := (allSpelled_cons_iff.1 hspelled).1
  -- the lexer reads no empty name
  rw [Token.IsSpelled, hkind] at hname
  have hne : q.table.1.text.isEmpty = false := by
    rw [Bool.eq_false_iff, ne_eq, String.isEmpty_iff]
    intro hempty
    exact hname.1 (by rw [hempty]; rfl)
  have hchild : childAt q.tree.normalize 0 Tag.tableName = .ok q.tableTree := by
    rw [childAt, hchildren]
    rfl
  rw [toTable, hchild, ok_bind, tableTree, leafText_spanning_leafOf, ok_bind, hne]
  rfl

/-- The first clause of a kind is read if every clause of the kind can be read. -/
theorem ofFirst_eq {α β : Type} (kind : ClauseKind α) {read : Tree → Except ShapeError β}
    {meaning : α → β}
    (hread : ∀ x, AllSpelled (kind.tokens x) → read (kind.tree x).normalize = .ok (meaning x))
    (q : QueryPhrase) (hspelled : AllSpelled q.tokens) :
    q.tree.normalize.ofFirst kind.tag read = .ok ((q.first? kind.of?).map meaning) := by
  rw [ofFirst, find?_normalize_tree kind q hspelled]
  cases hfirst : q.first? kind.of? with
  | none => rfl
  | some x =>
    show (read (kind.tree x).normalize >>= _) = _
    rw [hread x (allSpelled_of_first? kind hspelled hfirst)]
    rfl

theorem ofFirst_order (q : QueryPhrase) (hspelled : AllSpelled q.tokens) :
    q.tree.normalize.ofFirst Tag.orderClause toOrder =
      .ok ((q.first? Clause.order?).map OrderPhrase.meaning) :=
  ofFirst_eq ClauseKind.order toOrder_of_orderPhrase q hspelled

theorem ofFirst_select (q : QueryPhrase) (hspelled : AllSpelled q.tokens) :
    q.tree.normalize.ofFirst Tag.selectClause (fun clause => toNames (clause.outermost Tag.name)) =
      .ok ((q.first? Clause.select?).map SelectPhrase.meaning) := by
  refine ofFirst_eq ClauseKind.select (fun s hs => ?_) q hspelled
  exact toNames_of_selectPhrase s hs

theorem ofFirst_render (q : QueryPhrase) (hspelled : AllSpelled q.tokens) :
    q.tree.normalize.ofFirst Tag.renderClause toTemplate =
      .ok ((q.first? Clause.render?).map (fun r => some r.meaning)) :=
  ofFirst_eq ClauseKind.render toTemplate_of_renderPhrase q hspelled

/-- The first limit is read as what it means; only it can fail. -/
theorem ofFirst_limit (q : QueryPhrase) (hspelled : AllSpelled q.tokens) :
    q.tree.normalize.ofFirst Tag.limitClause toLimit =
      (q.first? Clause.limit?).elim (.ok none) (fun l => l.meaning.map some) := by
  have hfind : q.tree.normalize.find? Tag.limitClause =
      (q.first? Clause.limit?).map (fun l => l.tree.normalize) :=
    find?_normalize_tree ClauseKind.limit q hspelled
  rw [ofFirst, hfind]
  cases hfirst : q.first? Clause.limit? with
  | none => rfl
  | some l =>
    have hread := toLimit_of_limitPhrase l (allSpelled_of_first? ClauseKind.limit hspelled hfirst)
    show (toLimit l.tree.normalize >>= _) = l.meaning.map some
    rw [hread]
    cases l.meaning <;> rfl

/-! ## Reading the filters -/

theorem toFilters_map (fs : List FilterPhrase) (hspelled : ∀ f ∈ fs, AllSpelled f.tokens) :
    toFilters (fs.map (fun f => f.tree.normalize)) = .ok (fs.map FilterPhrase.meaning) := by
  induction fs with
  | nil => rfl
  | cons f fs ih =>
    have hrest := ih (fun g hg => hspelled g (List.mem_cons_of_mem f hg))
    rw [List.map_cons, toFilters, toFilter_of_filterPhrase f (hspelled f (List.mem_cons_self ..)),
      ok_bind, hrest]
    rfl

theorem mem_tokens_of_filter? {c : Clause} {f : FilterPhrase} (h : c.filter? = some f) {t : Token}
    (ht : t ∈ f.tokens) : t ∈ c.tokens := by
  cases c <;> cases h
  rename_i connective
  cases connective with
  | none => exact ht
  | some c => exact List.mem_cons_of_mem _ (List.mem_append_right _ ht)

theorem toFilters_outermost (q : QueryPhrase) (hspelled : AllSpelled q.tokens) :
    toFilters (q.tree.normalize.outermost Tag.filterExpr) =
      .ok ((q.clauses.filterMap (fun c => c.clause.filter?)).map FilterPhrase.meaning) := by
  rw [q.outermost_filterExpr hspelled]
  apply toFilters_map
  intro f hf
  obtain ⟨c, hc, hfilter⟩ := List.mem_filterMap.1 hf
  intro t ht
  exact hspelled t (mem_tokens_of_mem_clauses hc (mem_tokens_of_filter? hfilter ht))

/-- The query of a derivation's tree is what the derivation means. -/
theorem ofNode_normalize_tree (q : QueryPhrase) (hspelled : AllSpelled q.tokens) :
    Query.ofNode q.tree.normalize = q.meaning := by
  rw [Query.ofNode, q.toTable_eq hspelled, ok_bind, q.ofFirst_order hspelled, ok_bind,
    q.ofFirst_limit hspelled, meaning]
  -- behind the limit nothing fails
  have hbehind : ∀ limit : Option Nat, (do
      let filters ← toFilters (q.tree.normalize.outermost Tag.filterExpr)
      let select ← q.tree.normalize.ofFirst Tag.selectClause
        (fun clause => toNames (clause.outermost Tag.name))
      let render ← q.tree.normalize.ofFirst Tag.renderClause toTemplate
      return ({
        table := q.table.1.text, filters, limit, select
        orderBy := ((q.first? Clause.order?).map OrderPhrase.meaning).map Prod.fst
        descending := (((q.first? Clause.order?).map OrderPhrase.meaning).map Prod.snd).getD false
        render := render.getD none } : Query)) = .ok (q.withLimit limit) := by
    intro limit
    rw [q.toFilters_outermost hspelled, ok_bind, q.ofFirst_select hspelled, ok_bind,
      q.ofFirst_render hspelled, ok_bind, withLimit]
    cases q.first? Clause.order? <;> cases q.first? Clause.render? <;> rfl
  cases hlimit : q.first? Clause.limit? with
  | none =>
    rw [Option.elim_none, ok_bind]
    exact hbehind none
  | some l =>
    rw [Option.elim_some]
    show _ = Except.map _ l.meaning
    cases hmeaning : l.meaning with
    | error e => rfl
    | ok n =>
      rw [Except.map, ok_bind]
      exact hbehind (some n)

end QueryPhrase

/-! ## Whole texts -/

namespace Program

/-- The query of the tree of a text is what the derivation means. -/
theorem ofTree_tree (p : Program) (size : Nat) (hspelled : AllSpelled p.tokens) :
    Query.ofTree (p.tree size) = p.query.meaning := by
  simp only [tokens, allSpelled_append_iff] at hspelled
  obtain ⟨hlead, hquery, -⟩ := hspelled
  have htag : p.query.tree.hasTag Tag.query = true := rfl
  have hchildren : (p.tree size).normalize.children =
      p.query.tree.normalize :: normalizedAll p.trail.leaves := by
    show normalizedAll (p.lead.leaves ++ p.query.tree :: p.trail.leaves) = _
    rw [normalizedAll_gap_append p.lead hlead, normalizedAll_cons_of_hasTag htag]
  rw [Query.ofTree, hchildren]
  exact p.query.ofNode_normalize_tree hquery

theorem find?_limitClause_tree (p : Program) (size : Nat) :
    (p.tree size).find? Tag.limitClause = (p.query.first? Clause.limit?).map LimitPhrase.tree := by
  have hquery : p.query.tree.find? Tag.limitClause =
      (p.query.first? Clause.limit?).map LimitPhrase.tree :=
    QueryPhrase.find?_tree ClauseKind.limit p.query
  rw [find?_of_not_hasTag rfl, ← hquery, find?_eq_firstIn?]
  show firstIn? _ (p.lead.leaves ++ ([p.query.tree] ++ p.trail.leaves)) = _
  rw [firstIn?_gap_append, firstIn?_append, firstIn?_leaves, Option.or_none]

end Program

end NoteQuery.Syntax

namespace NoteQuery

open Syntax

namespace Tree

/-- The node of the number in the first limit clause. -/
def limitNumber? (t : Tree) : Option Tree :=
  (t.find? Tag.limitClause).bind (fun clause => clause.find? Tag.number)

/-- The number that the text below a node spells. -/
def decoded? (number : Tree) : Option Binary64 :=
  (number.children.head?.bind Tree.text).bind Binary64.ofText?

end Tree

theorem limitNumber?_tree (p : Program) (size : Nat) :
    (p.tree size).limitNumber? = (p.query.first? Clause.limit?).map LimitPhrase.numberTree := by
  have hnumber : ∀ l : LimitPhrase, l.tree.find? Tree.Tag.number = some l.numberTree := by
    intro l
    rw [find?_of_not_hasTag rfl]
    show Tree.firstIn? _ (leafOf l.word.1 :: (l.gap.leaves ++ [l.numberTree])) = _
    rw [firstIn?_leafOf_cons, firstIn?_gap_append, LimitPhrase.numberTree,
      firstIn?_spanning_cons_self]
  rw [Tree.limitNumber?, p.find?_limitClause_tree size]
  cases p.query.first? Clause.limit? with
  | none => rfl
  | some l => exact hnumber l

/-- The tree of a text is the tree of a derivation with well spelled tokens. -/
theorem exists_program_of_ofSource {source : String} {tree : Tree}
    (h : Tree.ofSource source = .ok tree) :
    ∃ p : Program, AllSpelled p.tokens ∧ tree = p.tree source.utf8ByteSize := by
  obtain ⟨tokens, htokens, hprogram⟩ := exists_of_bind h
  have hread := wellRead_of_tokenize htokens
  obtain ⟨p, rfl, rfl⟩ := exists_of_program hread hprogram
  exact ⟨p, hread.admits, rfl⟩

theorem decoded?_numberTree {p : Program} (hspelled : AllSpelled p.tokens) {l : LimitPhrase}
    (hl : p.query.first? Clause.limit? = some l) :
    l.numberTree.decoded? = some (numberOf l.number.1) := by
  simp only [Program.tokens, allSpelled_append_iff] at hspelled
  have hspelled : AllSpelled l.tokens :=
    QueryPhrase.allSpelled_of_first? ClauseKind.limit hspelled.2.1 hl
  simp only [LimitPhrase.tokens, allSpelled_cons_iff, allSpelled_append_iff] at hspelled
  exact ofText?_eq_numberOf (eq_of_beq l.number.2) hspelled.2.2.1

/-- A derivation has no meaning only because the number of its first limit is no count. -/
theorem meaning_eq_error_iff (q : QueryPhrase) (e : ShapeError) :
    q.meaning = .error e ↔ ∃ l, q.first? Clause.limit? = some l ∧
      ¬ (numberOf l.number.1).IsCount ∧
      e =
        .inadmissibleLimit (Value.number (numberOf l.number.1)).display l.numberTree.describe := by
  unfold QueryPhrase.meaning
  cases q.first? Clause.limit? with
  | none =>
    refine ⟨nofun, ?_⟩
    rintro ⟨l, hl, -⟩
    cases hl
  | some l =>
    have hcount := Binary64.isSome_admissibleLimit?_iff (numberOf l.number.1)
    dsimp only [LimitPhrase.meaning]
    cases hlimit : Tree.admissibleLimit? (numberOf l.number.1) with
    | some n =>
      rw [hlimit] at hcount
      refine ⟨nofun, ?_⟩
      rintro ⟨l', hl, hnot, -⟩
      obtain rfl := Option.some.inj hl
      exact absurd (hcount.1 rfl) hnot
    | none =>
      rw [hlimit] at hcount
      constructor
      · intro he
        refine ⟨l, rfl, fun h => ?_, (Except.error.inj he).symm⟩
        cases hcount.2 h
      · rintro ⟨l', hl, -, rfl⟩
        obtain rfl := Option.some.inj hl
        rfl

/-- Both stages of parsing agree. A tree that the grammar builds is refused only if the number in
its first limit clause is no count, and then for that reason; so a text is a query exactly if it has
a tree whose first limit, if there is one, is a count. -/
theorem ofText_accepts_iff (source : String) :
    (∀ tree, Tree.ofSource source = .ok tree → ∀ e, Query.ofTree tree = .error e →
      ∃ number x, tree.limitNumber? = some number ∧ number.decoded? = some x ∧ ¬ x.IsCount ∧
        e = .inadmissibleLimit (Value.number x).display number.describe) ∧
    ((∃ q, Query.ofText source = .ok q) ↔
      ∃ tree, Tree.ofSource source = .ok tree ∧
        ∀ number, tree.limitNumber? = some number → ∃ x, number.decoded? = some x ∧ x.IsCount) := by
  have herror : ∀ tree, Tree.ofSource source = .ok tree → ∀ e, Query.ofTree tree = .error e →
      ∃ number x, tree.limitNumber? = some number ∧ number.decoded? = some x ∧ ¬ x.IsCount ∧
        e = .inadmissibleLimit (Value.number x).display number.describe := by
    intro tree htree e he
    obtain ⟨p, hspelled, rfl⟩ := exists_program_of_ofSource htree
    rw [p.ofTree_tree _ hspelled] at he
    obtain ⟨l, hl, hcount, he⟩ := (meaning_eq_error_iff p.query e).1 he
    refine ⟨l.numberTree, numberOf l.number.1, ?_, decoded?_numberTree hspelled hl, hcount, he⟩
    rw [limitNumber?_tree, hl, Option.map_some]
  refine ⟨herror, ⟨?_, ?_⟩⟩
  · rintro ⟨q, hq⟩
    obtain ⟨tree, htree, hq⟩ := exists_of_bind hq
    refine ⟨tree, htree, fun number hnumber => ?_⟩
    obtain ⟨p, hspelled, rfl⟩ := exists_program_of_ofSource htree
    rw [p.ofTree_tree _ hspelled] at hq
    rw [limitNumber?_tree] at hnumber
    obtain ⟨l, hl, rfl⟩ := Option.map_eq_some_iff.1 hnumber
    refine ⟨_, decoded?_numberTree hspelled hl, ?_⟩
    by_contra hcount
    rw [(meaning_eq_error_iff p.query _).2 ⟨l, hl, hcount, rfl⟩] at hq
    cases hq
  · rintro ⟨tree, htree, hlimit⟩
    cases hq : Query.ofTree tree with
    | ok q =>
      refine ⟨q, ?_⟩
      rw [Query.ofText, htree, ok_bind, hq]
      rfl
    | error e =>
      obtain ⟨number, x, hnumber, hx, hcount, -⟩ := herror tree htree e hq
      obtain ⟨y, hy, hycount⟩ := hlimit number hnumber
      obtain rfl : x = y := Option.some.inj (hx.symm.trans hy)
      exact absurd hycount hcount

/-- Only the first limit has to be a count. -/
theorem ofText_accepts_iff_twoLimits :
    (∃ tree number x, Tree.ofSource "t limit 5 limit 1.5" = .ok tree ∧
      tree.limitNumber? = some number ∧ number.decoded? = some x ∧ x.IsCount) ∧
    ∃ tree number x, Tree.ofSource "t limit 1.5 limit 5" = .ok tree ∧
      tree.limitNumber? = some number ∧ number.decoded? = some x ∧ ¬ x.IsCount := by
  have haccepted : (Query.ofText "t limit 5 limit 1.5").isOk = true := by decide +kernel
  have hlimit :
      ((Tree.ofSource "t limit 5 limit 1.5").toOption.bind Tree.limitNumber?).isSome = true := by
    decide +kernel
  have hread : (Tree.ofSource "t limit 1.5 limit 5").isOk = true := by decide +kernel
  have hrefused : (Tree.ofSource "t limit 1.5 limit 5").toOption.any
      (fun tree => !(Query.ofTree tree).isOk) = true := by
    decide +kernel
  constructor
  · cases hq : Query.ofText "t limit 5 limit 1.5" with
    | error e => rw [hq] at haccepted; cases haccepted
    | ok q =>
      obtain ⟨tree, htree, hcount⟩ := (ofText_accepts_iff _).2.1 ⟨q, hq⟩
      rw [htree] at hlimit
      obtain ⟨number, hnumber⟩ := Option.isSome_iff_exists.1 hlimit
      obtain ⟨x, hx, hcount⟩ := hcount number hnumber
      exact ⟨tree, number, x, htree, hnumber, hx, hcount⟩
  · cases htree : Tree.ofSource "t limit 1.5 limit 5" with
    | error e => rw [htree] at hread; cases hread
    | ok tree =>
      rw [htree] at hrefused
      cases he : Query.ofTree tree with
      | ok q =>
        change (!(Query.ofTree tree).isOk) = true at hrefused
        rw [he] at hrefused
        cases hrefused
      | error e =>
        obtain ⟨number, x, hnumber, hx, hcount, -⟩ := (ofText_accepts_iff _).1 tree htree e he
        exact ⟨tree, number, x, rfl, hnumber, hx, hcount⟩

end NoteQuery
