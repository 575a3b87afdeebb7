import NoteQuery.Proofs.Extraction

/-!
# Finding clauses

The reader of a syntax tree looks for clauses by their tags. In the tree of a derivation it finds
the first clause of each kind, and every filter, because no tag of a clause is used inside of a
clause.
-/

namespace NoteQuery.Syntax

open NoteQuery.Tree

/-! ## Tags of clauses -/

/-- Tags of the nodes that stand for clauses. -/
def clauseTags : List String :=
  [Tag.filterExpr, Tag.orderClause, Tag.limitClause, Tag.selectClause, Tag.renderClause]

/-- Tags of the nodes inside of clauses. -/
def innerTags : List String :=
  [Tag.name, Tag.value, Tag.number, Tag.string, Tag.bool, Tag.null, Tag.regex, Tag.pageRef,
    Tag.list, Tag.orderDirection]

theorem ne_of_mem_innerTags :
    ∀ inner ∈ innerTags, ∀ tag ∈ clauseTags, inner ≠ tag := by
  decide

theorem literalTag_mem_innerTags (t : TokenOf isLiteral) : literalTag t ∈ innerTags := by
  have htag := literalTag?_eq t
  generalize literalTag t = tag at htag
  unfold literalTag? at htag
  split at htag
  · rw [← Option.some.inj htag]
    decide
  · rw [← Option.some.inj htag]
    decide
  · rw [← Option.some.inj htag]
    decide
  · rw [← Option.some.inj htag]
    decide
  · split at htag
    · rw [← Option.some.inj htag]
      decide
    split at htag
    · rw [← Option.some.inj htag]
      decide
    split at htag
    · rw [← Option.some.inj htag]
      decide
    · cases htag
  · cases htag

variable {tag : String}

theorem firstIn?_leaves_append (tokens : List Token) (ts : List Tree) :
    firstIn? tag (tokens.map leafOf ++ ts) = firstIn? tag ts := by
  induction tokens with
  | nil => rfl
  | cons t tokens ih => rw [List.map_cons, List.cons_append, firstIn?_leafOf_cons, ih]

theorem firstIn?_gap_append (gap : Gap) (ts : List Tree) :
    firstIn? tag (gap.leaves ++ ts) = firstIn? tag ts := firstIn?_leaves_append gap.tokens ts

theorem firstIn?_leaves (gap : Gap) : firstIn? tag gap.leaves = none := by
  rw [← List.append_nil gap.leaves, firstIn?_gap_append, firstIn?_nil]

/-- No clause is found in a node of another kind with no clause below it. -/
theorem firstIn?_inner_cons (htag : tag ∈ clauseTags) {inner : String} (hinner : inner ∈ innerTags)
    {children : List Tree} (hchildren : firstIn? tag children = none) (ts : List Tree) :
    firstIn? tag (.spanning inner children :: ts) = firstIn? tag ts := by
  rw [firstIn?_cons_of_not_hasTag (hasTag_spanning_of_ne (ne_of_mem_innerTags _ hinner _ htag) _)]
  show (firstIn? tag children).or _ = _
  rw [hchildren, Option.none_or]

theorem firstIn?_inner_leafOf_cons (htag : tag ∈ clauseTags) {inner : String}
    (hinner : inner ∈ innerTags) (t : Token) (ts : List Tree) :
    firstIn? tag (.spanning inner [leafOf t] :: ts) = firstIn? tag ts :=
  firstIn?_spanning_leafOf_cons (ne_of_mem_innerTags _ hinner _ htag) t ts

mutual

/-- There are no clauses in values. -/
theorem firstIn?_valuePhrase_cons (htag : tag ∈ clauseTags) (v : ValuePhrase) (ts : List Tree) :
    firstIn? tag (v.tree :: ts) = firstIn? tag ts := by
  match v with
  | .literal t =>
    refine firstIn?_inner_cons htag (by decide) ?_ ts
    rw [firstIn?_inner_leafOf_cons htag (literalTag_mem_innerTags t), firstIn?_nil]
  | .emptyList opening gap closing =>
    refine firstIn?_inner_cons htag (by decide) ?_ ts
    refine (firstIn?_inner_cons htag (by decide) ?_ []).trans firstIn?_nil
    rw [firstIn?_leafOf_cons, firstIn?_gap_append, firstIn?_leafOf_cons, firstIn?_nil]
  | .list opening gap items =>
    refine firstIn?_inner_cons htag (by decide) ?_ ts
    refine (firstIn?_inner_cons htag (by decide) ?_ []).trans firstIn?_nil
    rw [firstIn?_leafOf_cons, firstIn?_gap_append, firstIn?_itemPhrases htag items]

theorem firstIn?_itemPhrases (htag : tag ∈ clauseTags) (is : ItemPhrases) :
    firstIn? tag is.trees = none := by
  match is with
  | .last item gap closing =>
    rw [ItemPhrases.trees, firstIn?_valuePhrase_cons htag item, firstIn?_gap_append,
      firstIn?_leafOf_cons, firstIn?_nil]
  | .more item gap comma gap' items =>
    rw [ItemPhrases.trees, firstIn?_valuePhrase_cons htag item, firstIn?_gap_append,
      firstIn?_leafOf_cons, firstIn?_gap_append, firstIn?_itemPhrases htag items]

end

/-! ## Finding clauses -/

namespace Clause

/-- Tag of the clause's node. -/
def nodeTag : Clause → String
  | filter _ _ => Tag.filterExpr
  | order _ => Tag.orderClause
  | limit _ => Tag.limitClause
  | select _ => Tag.selectClause
  | render _ => Tag.renderClause

/-- The clause's node. -/
def node : Clause → Tree
  | filter _ f => f.tree
  | order o => o.tree
  | limit l => l.tree
  | select s => s.tree
  | render r => r.tree

theorem tag_node (c : Clause) : c.node.tag = some c.nodeTag := by
  cases c <;> rfl

/-- There are no clauses in clauses. -/
theorem firstIn?_children_node (htag : tag ∈ clauseTags) (c : Clause) :
    firstIn? tag c.node.children = none := by
  cases c with
  | filter connective f =>
    show firstIn? tag (nameTree f.field :: (f.beforeOperator.leaves ++ leafOf f.operator.1 ::
      (f.beforeOperand.leaves ++ [f.operand.tree]))) = none
    rw [nameTree, firstIn?_inner_leafOf_cons htag (by decide), firstIn?_gap_append,
      firstIn?_leafOf_cons, firstIn?_gap_append, firstIn?_valuePhrase_cons htag, firstIn?_nil]
  | order o =>
    have hdirection : firstIn? tag (o.direction.elim [] DirectionPhrase.trees) = none := by
      cases o.direction with
      | none => exact firstIn?_nil
      | some d =>
        rw [Option.elim_some, DirectionPhrase.trees, firstIn?_gap_append,
          firstIn?_inner_leafOf_cons htag (by decide), firstIn?_nil]
    show firstIn? tag (leafOf o.word.1 :: (o.beforeBy.leaves ++ leafOf o.byWord.1 ::
      (o.beforeField.leaves ++ nameTree o.field ::
        o.direction.elim [] DirectionPhrase.trees))) = none
    rw [firstIn?_leafOf_cons, firstIn?_gap_append, firstIn?_leafOf_cons, firstIn?_gap_append,
      nameTree, firstIn?_inner_leafOf_cons htag (by decide), hdirection]
  | limit l =>
    show firstIn? tag
      (leafOf l.word.1 :: (l.gap.leaves ++ [.spanning Tag.number [leafOf l.number.1]])) = none
    rw [firstIn?_leafOf_cons, firstIn?_gap_append, firstIn?_inner_leafOf_cons htag (by decide),
      firstIn?_nil]
  | select s =>
    have hfurther : ∀ further : List FurtherName,
        firstIn? tag (further.flatMap FurtherName.trees) = none := by
      intro further
      induction further with
      | nil => exact firstIn?_nil
      | cons n further ih =>
        rw [List.flatMap_cons, firstIn?_append, ih, FurtherName.trees, firstIn?_gap_append,
          firstIn?_leafOf_cons, firstIn?_gap_append, nameTree,
          firstIn?_inner_leafOf_cons htag (by decide), firstIn?_nil]
        rfl
    show firstIn? tag (leafOf s.word.1 :: (s.gap.leaves ++ nameTree s.first ::
      s.further.flatMap FurtherName.trees)) = none
    rw [firstIn?_leafOf_cons, firstIn?_gap_append, nameTree,
      firstIn?_inner_leafOf_cons htag (by decide), hfurther]
  | render r =>
    have htarget : targetTag r.target.1 ∈ innerTags := by
      unfold targetTag
      split <;> decide
    show firstIn? tag (leafOf r.word.1 ::
      (r.gap.leaves ++ [.spanning (targetTag r.target.1) [leafOf r.target.1]])) = none
    rw [firstIn?_leafOf_cons, firstIn?_gap_append, firstIn?_inner_leafOf_cons htag htarget,
      firstIn?_nil]

theorem hasTag_node (c : Clause) : c.node.hasTag tag = decide (c.nodeTag = tag) := by
  rw [hasTag, tag_node, Bool.eq_iff_iff]
  simp

/-- In a clause there is no other clause. -/
theorem firstIn?_node_cons (htag : tag ∈ clauseTags) (c : Clause) :
    firstIn? tag [c.node] = if c.nodeTag = tag then some c.node else none := by
  split
  · rename_i heq
    exact firstIn?_cons_of_hasTag (by simp [hasTag_node, heq]) []
  · rename_i hne
    exact firstIn?_cons_eq_none_iff.2
      ⟨by simp [hasTag_node, hne], c.firstIn?_children_node htag, firstIn?_nil⟩

/-- The trees of a clause are its node, and the leaves of a connective in front of it. -/
theorem firstIn?_trees (c : Clause) : firstIn? tag c.trees = firstIn? tag [c.node] := by
  cases c with
  | filter connective f =>
    cases connective with
    | none => rfl
    | some c =>
      rw [trees, firstIn?_leafOf_cons, firstIn?_gap_append]
      rfl
  | _ => rfl

/-- What normalization leaves of the trees of a clause. -/
theorem exists_normalizedAll_trees (c : Clause) (hspelled : AllSpelled c.tokens) :
    ∃ words : List Token, normalizedAll c.trees = words.map leafOf ++ [c.node.normalize] := by
  have htag : c.node.hasTag c.nodeTag = true := by simp [hasTag_node]
  have hnode : normalizedAll [c.node] = [c.node.normalize] := normalizedAll_cons_of_hasTag htag []
  cases c with
  | filter connective f =>
    cases connective with
    | none => exact ⟨[], hnode⟩
    | some c =>
      simp only [tokens, allSpelled_cons_iff, allSpelled_append_iff] at hspelled
      obtain ⟨hword, hgap, -⟩ := hspelled
      refine ⟨[c.word.1], ?_⟩
      rw [trees, normalizedAll_leafOf_cons c.word hword, normalizedAll_gap_append c.gap hgap]
      exact congrArg _ hnode
  | _ => exact ⟨[], hnode⟩

theorem firstIn?_normalizedAll_trees (htag : tag ∈ clauseTags) (c : Clause)
    (hspelled : AllSpelled c.tokens) :
    firstIn? tag (normalizedAll c.trees) =
      if c.nodeTag = tag then some c.node.normalize else none := by
  obtain ⟨words, htrees⟩ := c.exists_normalizedAll_trees hspelled
  rw [htrees, firstIn?_leaves_append]
  have hnode : c.node.normalize.hasTag tag = decide (c.nodeTag = tag) := c.hasTag_node
  split
  · rename_i heq
    exact firstIn?_cons_of_hasTag (by simp [hnode, heq]) []
  · rename_i hne
    have hchildren := firstIn?_normalizedAll c.node.children (c.firstIn?_children_node htag)
    exact firstIn?_cons_eq_none_iff.2 ⟨by simp [hnode, hne], hchildren, firstIn?_nil⟩

theorem outermostAll_normalizedAll_trees (htag : tag ∈ clauseTags) (c : Clause)
    (hspelled : AllSpelled c.tokens) :
    outermostAll tag (normalizedAll c.trees) =
      if c.nodeTag = tag then [c.node.normalize] else [] := by
  have hfirst := c.firstIn?_normalizedAll_trees htag hspelled
  split
  · rename_i heq
    obtain ⟨words, htrees⟩ := c.exists_normalizedAll_trees hspelled
    have hwords : outermostAll tag (words.map leafOf) = [] := by
      apply outermostAll_eq_nil
      rw [← List.append_nil (words.map leafOf), firstIn?_leaves_append, firstIn?_nil]
    have hnode : c.node.normalize.hasTag tag = true := by
      rw [hasTag_normalize, c.hasTag_node]
      simp [heq]
    rw [htrees, outermostAll_append, hwords, List.nil_append, outermostAll,
      outermost_of_hasTag hnode]
    rfl
  · rename_i hne
    rw [if_neg hne] at hfirst
    exact outermostAll_eq_nil hfirst

end Clause

/-! ## Kinds of clauses -/

/-- A kind of clauses of which the first one counts: the tag that finds it, what a clause of the
kind holds, and the tree and the tokens of that. -/
structure ClauseKind (α : Type) where
  tag : String
  of? : Clause → Option α
  tree : α → Tree
  tokens : α → List Token
  tag_mem : tag ∈ clauseTags
  node_eq : ∀ c : Clause, (if c.nodeTag = tag then some c.node else none) = (of? c).map tree
  tokens_eq : ∀ c x, of? c = some x → c.tokens = tokens x

namespace ClauseKind

def order : ClauseKind OrderPhrase where
  tag := Tag.orderClause
  of? := Clause.order?
  tree := OrderPhrase.tree
  tokens := OrderPhrase.tokens
  tag_mem := by decide
  node_eq := by
    intro c
    cases c <;> rfl
  tokens_eq := by
    intro c o h
    cases c <;> cases h
    rfl

def limit : ClauseKind LimitPhrase where
  tag := Tag.limitClause
  of? := Clause.limit?
  tree := LimitPhrase.tree
  tokens := LimitPhrase.tokens
  tag_mem := by decide
  node_eq := by
    intro c
    cases c <;> rfl
  tokens_eq := by
    intro c l h
    cases c <;> cases h
    rfl

def select : ClauseKind SelectPhrase where
  tag := Tag.selectClause
  of? := Clause.select?
  tree := SelectPhrase.tree
  tokens := SelectPhrase.tokens
  tag_mem := by decide
  node_eq := by
    intro c
    cases c <;> rfl
  tokens_eq := by
    intro c s h
    cases c <;> cases h
    rfl

def render : ClauseKind RenderPhrase where
  tag := Tag.renderClause
  of? := Clause.render?
  tree := RenderPhrase.tree
  tokens := RenderPhrase.tokens
  tag_mem := by decide
  node_eq := by
    intro c
    cases c <;> rfl
  tokens_eq := by
    intro c r h
    cases c <;> cases h
    rfl

variable {α : Type} (kind : ClauseKind α)

/-- The first clause of a kind is found first. -/
theorem firstIn?_flatMap {build : SpacedClause → List Tree} {tree : α → Tree}
    {cs : List SpacedClause}
    (h : ∀ c ∈ cs, firstIn? kind.tag (build c) = (kind.of? c.clause).map tree) :
    firstIn? kind.tag (cs.flatMap build) =
      (cs.findSome? (fun c => kind.of? c.clause)).map tree := by
  induction cs with
  | nil => exact firstIn?_nil
  | cons c cs ih =>
    have hrest := ih (fun d hd => h d (List.mem_cons_of_mem c hd))
    rw [List.flatMap_cons, firstIn?_append, hrest, h c (List.mem_cons_self ..), List.findSome?_cons]
    cases kind.of? c.clause <;> rfl

end ClauseKind

/-! ## Clauses of queries -/

theorem AllSpelled.of_mem_flatMap {α : Type} {f : α → List Token} {xs : List α}
    (h : AllSpelled (xs.flatMap f)) : ∀ x ∈ xs, AllSpelled (f x) :=
  fun x hx t ht => h t (List.mem_flatMap.2 ⟨x, hx, ht⟩)

theorem normalizedAll_flatMap {build : SpacedClause → List Tree} (cs : List SpacedClause) :
    normalizedAll (cs.flatMap build) = cs.flatMap (fun c => normalizedAll (build c)) := by
  induction cs with
  | nil => rfl
  | cons c cs ih => rw [List.flatMap_cons, List.flatMap_cons, normalizedAll_append, ih]

theorem SpacedClause.normalizedAll_trees (c : SpacedClause) (hspelled : AllSpelled c.tokens) :
    normalizedAll c.trees = normalizedAll c.clause.trees :=
  normalizedAll_gap_append c.gap (allSpelled_append_iff.1 hspelled).1 c.clause.trees

namespace QueryPhrase

/-- The node that names the table. -/
def tableTree (q : QueryPhrase) : Tree := .spanning Tag.tableName [leafOf q.table.1]

theorem children_normalize (q : QueryPhrase) (hspelled : AllSpelled q.tokens) :
    q.tree.normalize.children =
      q.tableTree :: q.clauses.flatMap (fun c => normalizedAll c.trees) := by
  have htable := (allSpelled_cons_iff.1 hspelled).1
  show normalizedAll (.spanning Tag.tableName [leafOf q.table.1] ::
    q.clauses.flatMap SpacedClause.trees) = _
  rw [normalizedAll_spanning_leafOf_cons _ q.table htable, normalizedAll_flatMap]
  rfl

theorem firstIn?_tableTree_cons (htag : tag ∈ clauseTags) (q : QueryPhrase) (ts : List Tree) :
    firstIn? tag (q.tableTree :: ts) = firstIn? tag ts := by
  have hne : Tag.tableName ≠ tag := by
    rintro rfl
    exact absurd htag (by decide)
  exact firstIn?_spanning_leafOf_cons hne q.table.1 ts

theorem hasTag_tree (htag : tag ∈ clauseTags) (q : QueryPhrase) : q.tree.hasTag tag = false := by
  have hne : Tag.query ≠ tag := by
    rintro rfl
    exact absurd htag (by decide)
  exact hasTag_spanning_of_ne hne _

theorem outermost_filterExpr (q : QueryPhrase) (hspelled : AllSpelled q.tokens) :
    q.tree.normalize.outermost Tag.filterExpr =
      (q.clauses.filterMap (fun c => c.clause.filter?)).map (fun f => f.tree.normalize) := by
  have htag : Tag.filterExpr ∈ clauseTags := by decide
  have htable : outermost Tag.filterExpr q.tableTree = [] := rfl
  have hclauses := AllSpelled.of_mem_flatMap (allSpelled_cons_iff.1 hspelled).2
  rw [outermost_of_not_hasTag ((hasTag_normalize q.tree).trans (q.hasTag_tree htag)),
    q.children_normalize hspelled, outermostAll, htable, List.nil_append]
  -- by clauses: a filter gives one node, any other clause none
  generalize q.clauses = cs at hclauses
  induction cs with
  | nil => rfl
  | cons c cs ih =>
    have hrest := ih (fun d hd => hclauses d (List.mem_cons_of_mem c hd))
    have hc := hclauses c (List.mem_cons_self ..)
    rw [List.flatMap_cons, outermostAll_append, hrest, c.normalizedAll_trees hc,
      c.clause.outermostAll_normalizedAll_trees htag (allSpelled_append_iff.1 hc).2,
      List.filterMap_cons]
    cases c.clause <;> rfl

theorem mem_tokens_of_mem_clauses {q : QueryPhrase} {c : SpacedClause} (hc : c ∈ q.clauses)
    {t : Token} (ht : t ∈ c.clause.tokens) : t ∈ q.tokens := by
  apply List.mem_cons_of_mem
  exact List.mem_flatMap.2 ⟨c, hc, List.mem_append_right _ ht⟩

variable {α : Type} (kind : ClauseKind α)

theorem mem_tokens_of_first? {q : QueryPhrase} {x : α} (hx : q.first? kind.of? = some x) {t : Token}
    (ht : t ∈ kind.tokens x) : t ∈ q.tokens := by
  obtain ⟨c, hc, hkind⟩ := List.exists_of_findSome?_eq_some hx
  rw [← kind.tokens_eq _ _ hkind] at ht
  exact mem_tokens_of_mem_clauses hc ht

theorem allSpelled_of_first? {q : QueryPhrase} (hspelled : AllSpelled q.tokens) {x : α}
    (hx : q.first? kind.of? = some x) : AllSpelled (kind.tokens x) :=
  fun t ht => hspelled t (mem_tokens_of_first? kind hx ht)

/-- Where the tree of a query has its first clause of a kind. -/
theorem find?_tree (q : QueryPhrase) :
    q.tree.find? kind.tag = (q.first? kind.of?).map kind.tree := by
  rw [find?_of_not_hasTag (q.hasTag_tree kind.tag_mem)]
  show firstIn? kind.tag (q.tableTree :: q.clauses.flatMap SpacedClause.trees) = _
  rw [q.firstIn?_tableTree_cons kind.tag_mem]
  apply kind.firstIn?_flatMap
  intro c hc
  rw [SpacedClause.trees, firstIn?_gap_append, c.clause.firstIn?_trees,
    c.clause.firstIn?_node_cons kind.tag_mem, kind.node_eq]

/-- Where the tree of a query has its first clause of a kind once white space is dropped. -/
theorem find?_normalize_tree (q : QueryPhrase) (hspelled : AllSpelled q.tokens) :
    q.tree.normalize.find? kind.tag =
      (q.first? kind.of?).map (fun x => (kind.tree x).normalize) := by
  have hclauses := AllSpelled.of_mem_flatMap (allSpelled_cons_iff.1 hspelled).2
  rw [find?_of_not_hasTag ((hasTag_normalize q.tree).trans (q.hasTag_tree kind.tag_mem)),
    q.children_normalize hspelled, q.firstIn?_tableTree_cons kind.tag_mem]
  apply kind.firstIn?_flatMap
  intro c hc
  have hc := hclauses c hc
  rw [c.normalizedAll_trees hc,
    c.clause.firstIn?_normalizedAll_trees kind.tag_mem (allSpelled_append_iff.1 hc).2]
  -- a normalized clause is found where the clause itself is
  have hnode := congrArg (Option.map normalize) (kind.node_eq c.clause)
  rw [Option.map_map] at hnode
  show _ = (kind.of? c.clause).map (normalize ∘ kind.tree)
  rw [← hnode]
  split <;> rfl

end QueryPhrase

end NoteQuery.Syntax
