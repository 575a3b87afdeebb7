import NoteQuery.Proofs.Normalization

/-!
# Trees of hosts

A host may hand over a tree with white space between its nodes and around its texts, and with other
byte offsets or none. The query of a tree does not depend on any of this (`ofTree_respaced`):

* normalization takes the white space away, so that a tree and the same tree with more white space
  have the same normal form (`normalizedAll_of_respacedAll`);
* no reader of the normal form looks at byte offsets, apart from the places in errors. So what is
  read is what is read without them (`toOption_ofTree_unplaced`).
-/

namespace NoteQuery

open Unicode

/-! ## White space around texts -/

theorem trim_append_left {blanks : List Char} (h : ∀ c ∈ blanks, isBlank c = true)
    (cs : List Char) : trim (blanks ++ cs) = trim cs := by
  rw [trim, trim, List.dropWhile_append_of_pos h]

theorem trim_append_right {blanks : List Char} (h : ∀ c ∈ blanks, isBlank c = true)
    (cs : List Char) : trim (cs ++ blanks) = trim cs := by
  rw [trim, trim, List.dropWhile_append]
  split
  · rename_i hnil
    rw [List.isEmpty_iff.1 hnil, List.dropWhile_eq_nil_iff.2 h]
  · have hreverse : ∀ c ∈ blanks.reverse, isBlank c = true :=
      fun c hc => h c (List.mem_reverse.1 hc)
    rw [List.reverse_append, List.dropWhile_append_of_pos hreverse]

/-- A text with white space put at its ends. -/
structure IsPadded (cs padded : List Char) : Prop where
  eq_append : ∃ before after, (∀ c ∈ before, isBlank c = true) ∧ (∀ c ∈ after, isBlank c = true) ∧
    padded = before ++ (cs ++ after)

theorem IsPadded.trim_eq {cs padded : List Char} (h : IsPadded cs padded) :
    trim padded = trim cs := by
  obtain ⟨before, after, hbefore, hafter, rfl⟩ := h.eq_append
  rw [trim_append_left hbefore, trim_append_right hafter]

namespace Tree

/-! ## White space in trees -/

/-- A label, or one without tag whose text has white space put at its ends. -/
inductive Padded : Label → Label → Prop
  | same (label : Label) : Padded label label
  | text {label : Label} {text padded : String} (htag : label.tag = none)
    (htext : label.text = some text) (hpadded : IsPadded text.toList padded.toList) :
    Padded label { label with text := some padded }

/-- A leaf without tag that holds white space only. -/
structure IsBlankLeaf (t : Tree) : Prop where
  tag_eq : t.tag = none
  text_eq : ∃ text, t.text = some text ∧ ∀ c ∈ text.toList, isBlank c = true
  children_eq : t.children = []

/-- Trees with leaves of white space put between them and below them, and with white space put
around texts. -/
inductive RespacedAll : List Tree → List Tree → Prop
  | nil : RespacedAll [] []
  | node {label label' : Label} {children children' ts ts' : List Tree}
    (hlabel : Padded label label')
    (hchildren : RespacedAll children children') (hrest : RespacedAll ts ts') :
    RespacedAll (⟨label, children⟩ :: ts) (⟨label', children'⟩ :: ts')
  | blank {leaf : Tree} {ts ts' : List Tree} (hleaf : leaf.IsBlankLeaf)
    (hrest : RespacedAll ts ts') :
    RespacedAll ts (leaf :: ts')

/-- A tree with leaves of white space put below its root, and with white space put around texts. -/
structure Respaced (t t' : Tree) : Prop where
  label : Padded t.label t'.label
  children : RespacedAll t.children t'.children

theorem normalizeNode_of_padded {label label' : Label} (h : Padded label label')
    (children children' : List Tree) :
    normalizeNode ⟨label', children'⟩ = normalizeNode ⟨label, children⟩ := by
  cases h with
  | same => rfl
  | @text written padded htag htext hpadded =>
    obtain ⟨_, _, start, stop⟩ := label
    dsimp only at htag htext
    subst htag htext
    -- without a tag, only the trimmed text counts, and white space at the ends does not show in it
    show (if (trim padded.toList).isEmpty then Replacement.remove else
        .keep ⟨none, some (String.ofList (trim padded.toList)), start, stop⟩) =
      if (trim written.toList).isEmpty then Replacement.remove else
        .keep ⟨none, some (String.ofList (trim written.toList)), start, stop⟩
    rw [hpadded.trim_eq]

theorem IsBlankLeaf.normalizeNode_eq {leaf : Tree} (h : leaf.IsBlankLeaf) :
    normalizeNode leaf = .remove := by
  obtain ⟨text, htext, hblank⟩ := h.text_eq
  rw [normalizeNode, h.tag_eq, htext]
  show (if (trim text.toList).isEmpty then Replacement.remove else _) = .remove
  rw [trim_eq_nil hblank]
  rfl

/-- White space that has been put into trees does not show in their normal form. -/
theorem normalizedAll_of_respacedAll {ts ts' : List Tree} (h : RespacedAll ts ts') :
    normalizedAll ts' = normalizedAll ts := by
  induction h with
  | nil => rfl
  | @node label label' children children' ts ts' hlabel hchildren hrest ihchildren ihrest =>
    rw [normalizedAll_cons, normalizedAll_cons, ihrest,
      normalizeNode_of_padded hlabel children children']
    dsimp only
    rw [ihchildren]
  | blank hleaf hrest ih =>
    rw [normalizedAll_cons, hleaf.normalizeNode_eq]
    exact ih

theorem Respaced.describe_eq {t t' : Tree} (h : Respaced t t') : t'.describe = t.describe := by
  obtain ⟨label, children⟩ := t
  obtain ⟨label', children'⟩ := t'
  obtain ⟨hlabel, -⟩ := h
  cases hlabel <;> rfl

/-! ## Trees without places -/

/-- A label without byte offsets. -/
def unplacedLabel (label : Label) : Label := { label with start := none, stop := none }

mutual

/-- A tree without byte offsets. -/
def unplaced : Tree → Tree
  | ⟨label, children⟩ => ⟨unplacedLabel label, unplacedAll children⟩

/-- Trees without byte offsets. -/
def unplacedAll : List Tree → List Tree
  | [] => []
  | t :: ts => unplaced t :: unplacedAll ts

end

theorem unplacedAll_eq_map (ts : List Tree) : unplacedAll ts = ts.map unplaced := by
  induction ts with
  | nil => rfl
  | cons t ts ih => rw [unplacedAll, ih, List.map_cons]

theorem unplaced_mk (label : Label) (children : List Tree) :
    unplaced ⟨label, children⟩ = ⟨unplacedLabel label, children.map unplaced⟩ := by
  rw [unplaced, unplacedAll_eq_map]

@[simp] theorem children_unplaced (t : Tree) : t.unplaced.children = t.children.map unplaced := by
  obtain ⟨label, children⟩ := t
  rw [unplaced_mk]

@[simp] theorem tag_unplaced (t : Tree) : t.unplaced.tag = t.tag := by
  obtain ⟨label, children⟩ := t
  rw [unplaced_mk]
  rfl

@[simp] theorem text_unplaced (t : Tree) : t.unplaced.text = t.text := by
  obtain ⟨label, children⟩ := t
  rw [unplaced_mk]
  rfl

@[simp] theorem hasTag_unplaced (tag : String) (t : Tree) :
    t.unplaced.hasTag tag = t.hasTag tag := by
  rw [hasTag, tag_unplaced]
  rfl

/-! ### Searching and normalizing -/

theorem walk_map_unplaced (ts : List Tree) : walk (ts.map unplaced) = (walk ts).map unplaced := by
  -- the induction is on the nodes that are still to be visited
  fun_induction walk ts with
  | case1 =>
    rw [List.map_nil, walk]
  | case2 t rest ih =>
    rw [List.map_cons, walk_cons, children_unplaced, ← List.map_append, ih, List.map_cons]

@[simp] theorem find?_unplaced (tag : String) (t : Tree) :
    t.unplaced.find? tag = (t.find? tag).map unplaced := by
  have hwalk := walk_map_unplaced [t]
  have htag : hasTag tag ∘ unplaced = hasTag tag := funext (hasTag_unplaced tag)
  rw [find?, nodes, ← List.map_singleton, hwalk, List.find?_map, htag]
  rfl

mutual

theorem outermost_unplaced (tag : String) (t : Tree) :
    outermost tag t.unplaced = (outermost tag t).map unplaced := by
  match t with
  | ⟨label, children⟩ =>
    by_cases ht : hasTag tag ⟨label, children⟩ = true
    · have ht' : hasTag tag (unplaced ⟨label, children⟩) = true := by rw [hasTag_unplaced, ht]
      rw [outermost_of_hasTag ht, outermost_of_hasTag ht', List.map_singleton]
    · have ht := Bool.eq_false_iff.2 ht
      have ht' : hasTag tag (unplaced ⟨label, children⟩) = false := by rw [hasTag_unplaced, ht]
      rw [outermost_of_not_hasTag ht, outermost_of_not_hasTag ht', children_unplaced]
      exact outermostAll_map_unplaced tag children

theorem outermostAll_map_unplaced (tag : String) (ts : List Tree) :
    outermostAll tag (ts.map unplaced) = (outermostAll tag ts).map unplaced := by
  match ts with
  | [] => rfl
  | t :: ts =>
    rw [List.map_cons, outermostAll, outermostAll, List.map_append, outermost_unplaced tag t,
      outermostAll_map_unplaced tag ts]

end

/-- What becomes of a node without byte offsets. -/
def Replacement.unplaced : Replacement → Replacement
  | .keep label => .keep (unplacedLabel label)
  | .remove => .remove
  | .replace other => .replace other.unplaced

theorem normalizeNode_unplaced (t : Tree) :
    normalizeNode t.unplaced = (normalizeNode t).unplaced := by
  unfold normalizeNode
  rw [tag_unplaced, text_unplaced]
  obtain ⟨⟨tag, text, start, stop⟩, children⟩ := t
  rw [unplaced_mk]
  cases tag with
  | some tag => rfl
  | none =>
    cases text with
    | none => rfl
    | some text =>
      dsimp only [Tree.tag, Tree.text]
      split <;> rfl

mutual

theorem normalizedAll_singleton_unplaced (t : Tree) :
    normalizedAll [t.unplaced] = (normalizedAll [t]).map unplaced := by
  match t with
  | ⟨label, children⟩ =>
    have hchildren := normalizedAll_map_unplaced children
    rw [normalizedAll_cons, normalizedAll_cons, normalizeNode_unplaced, children_unplaced,
      hchildren]
    -- what becomes of a node is decided without its byte offsets; only a node that stays has any
    cases normalizeNode ⟨label, children⟩ with
    | keep label' =>
      rw [Replacement.unplaced, List.map_append, List.map_singleton, unplaced_mk]
      rfl
    | remove => rfl
    | replace other => rfl

theorem normalizedAll_map_unplaced (ts : List Tree) :
    normalizedAll (ts.map unplaced) = (normalizedAll ts).map unplaced := by
  match ts with
  | [] => rfl
  | t :: ts =>
    rw [List.map_cons, ← List.singleton_append, normalizedAll_append,
      normalizedAll_singleton_unplaced t, normalizedAll_map_unplaced ts, ← List.map_append,
      ← normalizedAll_append, List.singleton_append]

end

/-! ### Reading -/

section

variable {α β : Type}

/-- Two readings that begin alike come to the same if they go on alike. -/
theorem toOption_bind_congr {x y : Except ShapeError α} {f g : α → Except ShapeError β}
    (h : x.toOption = y.toOption) (hrest : ∀ a, (f a).toOption = (g a).toOption) :
    (x >>= f).toOption = (y >>= g).toOption := by
  cases x with
  | error e =>
    cases y with
    | error e' => rfl
    | ok b => exact nomatch h
  | ok a =>
    cases y with
    | error e => exact nomatch h
    | ok b =>
      obtain rfl : a = b := Option.some.inj h
      exact hrest a

/-- So do two readings that begin with a node, one of them with its byte offsets left out. -/
theorem toOption_bind_unplaced {x y : Except ShapeError Tree} {f g : Tree → Except ShapeError β}
    (h : x.toOption = y.toOption.map unplaced)
    (hrest : ∀ t, (f t.unplaced).toOption = (g t).toOption) :
    (x >>= f).toOption = (y >>= g).toOption := by
  have hmap : x.toOption = (y.map unplaced).toOption := by
    rw [h]
    cases y <;> rfl
  have hbind : (y >>= g).toOption = (y.map unplaced >>= f).toOption := by
    cases y with
    | error e => rfl
    | ok t => exact (hrest t).symm
  rw [hbind]
  exact toOption_bind_congr hmap (fun _ => rfl)

end

theorem toOption_childAt_unplaced (t : Tree) (index : Nat) (tag : String) :
    (childAt t.unplaced index tag).toOption = (childAt t index tag).toOption.map unplaced := by
  unfold childAt
  rw [children_unplaced, List.getElem?_map]
  cases t.children[index]? with
  | none => rfl
  | some node =>
    dsimp only [Option.map_some]
    rw [hasTag_unplaced]
    split <;> rfl

theorem toOption_literalOf_unplaced (t : Tree) :
    (literalOf t.unplaced).toOption = (literalOf t).toOption.map unplaced := by
  unfold literalOf
  rw [children_unplaced]
  cases t.children <;> rfl

theorem toOption_require_unplaced (t : Tree) (tag : String) :
    (require t.unplaced tag).toOption = (require t tag).toOption.map unplaced := by
  unfold require
  rw [find?_unplaced]
  cases t.find? tag <;> rfl

theorem toOption_leafText_unplaced (t : Tree) :
    (leafText t.unplaced).toOption = (leafText t).toOption := by
  unfold leafText
  have htext : t.unplaced.children.head?.bind Tree.text = t.children.head?.bind Tree.text := by
    rw [children_unplaced]
    cases t.children with
    | nil => rfl
    | cons node nodes => exact text_unplaced node
  rw [htext]
  cases t.children.head?.bind Tree.text <;> rfl

theorem toOption_strippedText_unplaced (t : Tree) (width : Nat) :
    (strippedText t.unplaced width).toOption = (strippedText t width).toOption := by
  unfold strippedText
  refine toOption_bind_congr (toOption_leafText_unplaced t) (fun text => ?_)
  -- the error for a text that is too short describes the node, with its place
  cases strippedRange? text width <;> rfl

mutual

theorem toOption_literal_unplaced (t : Tree) :
    (literal t.unplaced).toOption = (literal t).toOption := by
  match t with
  | ⟨label, children⟩ =>
    have hleaf := toOption_leafText_unplaced ⟨label, children⟩
    have hstripped := toOption_strippedText_unplaced ⟨label, children⟩
    have hitems := toOption_itemValues_map_unplaced children
    have hunplaced := unplaced_mk label children
    rw [hunplaced, literal, literal, ← hunplaced]
    simp only [hasTag_unplaced]
    -- one case for each tag, in the order in which they are looked for
    split_ifs
    · refine toOption_bind_congr hleaf (fun text => ?_)
      cases Binary64.ofText? text <;> rfl
    · exact toOption_bind_congr hleaf (fun _ => rfl)
    · rfl
    · exact toOption_bind_congr hleaf (fun _ => rfl)
    · exact toOption_bind_congr (hstripped 1) (fun _ => rfl)
    · exact toOption_bind_congr (hstripped 2) (fun _ => rfl)
    · exact toOption_bind_congr hitems (fun _ => rfl)
    · rfl

theorem toOption_itemValues_map_unplaced (ts : List Tree) :
    (itemValues (ts.map unplaced)).toOption = (itemValues ts).toOption := by
  match ts with
  | [] => rfl
  | t :: ts =>
    rw [List.map_cons, itemValues, itemValues]
    refine toOption_bind_congr (toOption_itemValuesIn_unplaced t) (fun first => ?_)
    exact toOption_bind_congr (toOption_itemValues_map_unplaced ts) (fun rest => rfl)

theorem toOption_itemValuesIn_unplaced (t : Tree) :
    (itemValuesIn t.unplaced).toOption = (itemValuesIn t).toOption := by
  match t with
  | ⟨label, []⟩ =>
    have hunplaced : unplaced ⟨label, []⟩ = ⟨unplacedLabel label, []⟩ := unplaced_mk label []
    rw [hunplaced, itemValuesIn, itemValuesIn, ← hunplaced, hasTag_unplaced]
    split <;> rfl
  | ⟨label, node :: nodes⟩ =>
    have hnode := toOption_literal_unplaced node
    have hitems := toOption_itemValues_map_unplaced (node :: nodes)
    have hunplaced : unplaced ⟨label, node :: nodes⟩ =
        ⟨unplacedLabel label, node.unplaced :: nodes.map unplaced⟩ :=
          unplaced_mk label (node :: nodes)
    rw [hunplaced, itemValuesIn, itemValuesIn, ← hunplaced, hasTag_unplaced]
    split
    · exact toOption_bind_congr hnode (fun item => rfl)
    · exact hitems

end

theorem toOption_toTable_unplaced (t : Tree) :
    (toTable t.unplaced).toOption = (toTable t).toOption := by
  unfold toTable
  refine toOption_bind_unplaced (toOption_childAt_unplaced t 0 Tag.tableName) (fun node => ?_)
  refine toOption_bind_congr (toOption_leafText_unplaced node) (fun table => ?_)
  split <;> rfl

theorem toOption_toOrder_unplaced (t : Tree) :
    (toOrder t.unplaced).toOption = (toOrder t).toOption := by
  unfold toOrder
  rw [find?_unplaced]
  refine toOption_bind_unplaced (toOption_require_unplaced t Tag.name) (fun node => ?_)
  refine toOption_bind_congr (toOption_leafText_unplaced node) (fun field => ?_)
  cases t.find? Tag.orderDirection with
  | none => rfl
  | some direction =>
    exact toOption_bind_congr (toOption_leafText_unplaced direction) (fun word => rfl)

theorem toOption_toLimit_unplaced (t : Tree) :
    (toLimit t.unplaced).toOption = (toLimit t).toOption := by
  unfold toLimit
  refine toOption_bind_unplaced (toOption_require_unplaced t Tag.number) (fun number => ?_)
  refine toOption_bind_congr (toOption_literal_unplaced number) (fun value => ?_)
  cases value.number?.bind admissibleLimit? <;> rfl

theorem toOption_toFilter_unplaced (t : Tree) :
    (toFilter t.unplaced).toOption = (toFilter t).toOption := by
  have hsymbol : t.unplaced.children[1]?.bind Tree.text = t.children[1]?.bind Tree.text := by
    rw [children_unplaced, List.getElem?_map, Option.bind_map]
    congr 1
    funext node
    exact text_unplaced node
  unfold toFilter
  rw [hsymbol]
  refine toOption_bind_unplaced (toOption_childAt_unplaced t 0 Tag.name) (fun node => ?_)
  refine toOption_bind_congr (toOption_leafText_unplaced node) (fun field => ?_)
  cases t.children[1]?.bind Tree.text with
  | none => rfl
  | some symbol =>
    dsimp only
    rw [pure_bind, pure_bind]
    cases Comparison.ofSymbol? symbol with
    | none => rfl
    | some comparison =>
      refine toOption_bind_unplaced (toOption_childAt_unplaced t 2 Tag.value) (fun operand => ?_)
      refine toOption_bind_unplaced (toOption_literalOf_unplaced operand) (fun node => ?_)
      exact toOption_bind_congr (toOption_literal_unplaced node) (fun value => rfl)

theorem toOption_toFilters_map_unplaced (ts : List Tree) :
    (toFilters (ts.map unplaced)).toOption = (toFilters ts).toOption := by
  induction ts with
  | nil => rfl
  | cons t ts ih =>
    rw [List.map_cons, toFilters, toFilters]
    refine toOption_bind_congr (toOption_toFilter_unplaced t) (fun filter => ?_)
    exact toOption_bind_congr ih (fun filters => rfl)

theorem toOption_toNames_map_unplaced (ts : List Tree) :
    (toNames (ts.map unplaced)).toOption = (toNames ts).toOption := by
  induction ts with
  | nil => rfl
  | cons t ts ih =>
    rw [List.map_cons, toNames, toNames]
    refine toOption_bind_congr (toOption_leafText_unplaced t) (fun name => ?_)
    exact toOption_bind_congr ih (fun names => rfl)

theorem toOption_toTemplate_unplaced (t : Tree) :
    (toTemplate t.unplaced).toOption = (toTemplate t).toOption := by
  have hread : ∀ target : Tree, (do return (← literal target.unplaced).text?).toOption =
      (do return (← literal target).text?).toOption :=
    fun target => toOption_bind_congr (toOption_literal_unplaced target) (fun value => rfl)
  unfold toTemplate
  rw [find?_unplaced, find?_unplaced]
  cases t.find? Tag.pageRef with
  | some target => exact toOption_bind_unplaced rfl hread
  | none =>
    cases t.find? Tag.string with
    | some target => exact toOption_bind_unplaced rfl hread
    | none => rfl

theorem toOption_ofFirst_unplaced {α : Type} (read : Tree → Except ShapeError α)
    (hread : ∀ t, (read t.unplaced).toOption = (read t).toOption) (tag : String) (t : Tree) :
    (ofFirst t.unplaced tag read).toOption = (ofFirst t tag read).toOption := by
  unfold ofFirst
  rw [find?_unplaced]
  cases t.find? tag with
  | none => rfl
  | some clause => exact toOption_bind_congr (hread clause) (fun part => rfl)

end Tree

open NoteQuery.Tree

theorem Query.toOption_ofNode_unplaced (t : Tree) :
    (Query.ofNode t.unplaced).toOption = (Query.ofNode t).toOption := by
  have horder := toOption_ofFirst_unplaced toOrder toOption_toOrder_unplaced Tag.orderClause t
  have hlimit := toOption_ofFirst_unplaced toLimit toOption_toLimit_unplaced Tag.limitClause t
  have hfilters : (toFilters (t.unplaced.outermost Tag.filterExpr)).toOption =
      (toFilters (t.outermost Tag.filterExpr)).toOption := by
    rw [outermost_unplaced, toOption_toFilters_map_unplaced]
  have hselect := toOption_ofFirst_unplaced (fun clause => toNames (clause.outermost Tag.name))
    (fun clause => by rw [outermost_unplaced, toOption_toNames_map_unplaced]) Tag.selectClause t
  have hrender :=
    toOption_ofFirst_unplaced toTemplate toOption_toTemplate_unplaced Tag.renderClause t
  unfold Query.ofNode
  refine toOption_bind_congr (toOption_toTable_unplaced t) (fun table => ?_)
  refine toOption_bind_congr horder (fun order => ?_)
  refine toOption_bind_congr hlimit (fun limit => ?_)
  refine toOption_bind_congr hfilters (fun filters => ?_)
  refine toOption_bind_congr hselect (fun select => ?_)
  exact toOption_bind_congr hrender (fun render => rfl)

/-- Byte offsets have no influence on the query of a tree, nor on whether it has one. -/
theorem Query.toOption_ofTree_unplaced (t : Tree) :
    (Query.ofTree t.unplaced).toOption = (Query.ofTree t).toOption := by
  have hchildren : t.unplaced.normalize.children = t.normalize.children.map unplaced := by
    rw [children_normalize, children_normalize, children_unplaced, normalizedAll_map_unplaced]
  unfold Query.ofTree
  rw [hchildren]
  cases t.normalize.children with
  | nil => rfl
  | cons node nodes => exact Query.toOption_ofNode_unplaced node

/-- White space that is put into a tree, between its nodes and around its texts, changes neither its
query nor its error. Changing byte offsets as well, or leaving them out, does not change its query,
nor whether it has one. -/
theorem Query.ofTree_respaced {t t' : Tree} (h : Respaced t t') :
    Query.ofTree t' = Query.ofTree t ∧
      ∀ t'', t''.unplaced = t'.unplaced →
        (Query.ofTree t'').toOption = (Query.ofTree t).toOption := by
  have hsame : Query.ofTree t' = Query.ofTree t := by
    have hchildren : t'.normalize.children = t.normalize.children := by
      rw [children_normalize, children_normalize, normalizedAll_of_respacedAll h.children]
    -- the error of a tree without query describes its root, with the tag and the place of the root
    have hmissing : (t'.missing "query clause" : Except ShapeError Query) =
        t.missing "query clause" := by
      unfold missing
      rw [h.describe_eq]
    unfold Query.ofTree
    rw [hchildren, hmissing]
  refine ⟨hsame, ?_⟩
  intro t'' hplaces
  calc (Query.ofTree t'').toOption
    _ = (Query.ofTree t''.unplaced).toOption := (Query.toOption_ofTree_unplaced t'').symm
    _ = (Query.ofTree t'.unplaced).toOption := by rw [hplaces]
    _ = (Query.ofTree t').toOption := Query.toOption_ofTree_unplaced t'
    _ = (Query.ofTree t).toOption := by rw [hsame]

namespace Tree

/-- A host's tree of a query with one filter. -/
def plainQuery : Tree :=
  ⟨{ tag := some "Directive" }, [⟨{ tag := some Tag.query, start := some 1, stop := some 17 }, [
    ⟨{ tag := some Tag.tableName }, [.leaf "task" 1 5]⟩,
    ⟨{ tag := some Tag.filterExpr }, [
      ⟨{ tag := some Tag.name }, [.leaf "tags" 6 10]⟩, .leaf "=" 11 12,
      ⟨{ tag := some Tag.value }, [⟨{ tag := some Tag.string }, [.leaf "'x'" 13 16]⟩]⟩]⟩]⟩]⟩

/-- The same tree with white space. -/
def paddedQuery : Tree :=
  ⟨{ tag := some "Directive" }, [.leaf "\n" 0 1,
    ⟨{ tag := some Tag.query, start := some 1, stop := some 17 }, [
      ⟨{ tag := some Tag.tableName }, [.leaf " task " 1 5]⟩, .leaf "   " 5 6,
      ⟨{ tag := some Tag.filterExpr }, [
        ⟨{ tag := some Tag.name }, [.leaf "tags" 6 10]⟩, .leaf "\t= " 11 12,
        ⟨{ tag := some Tag.value }, [⟨{ tag := some Tag.string }, [.leaf "'x'" 13 16]⟩]⟩]⟩]⟩]⟩

end Tree

theorem Query.ofTree_respaced_paddedQuery :
    Respaced plainQuery paddedQuery ∧ Query.ofTree paddedQuery = Query.ofTree plainQuery ∧
      (Query.ofTree paddedQuery.unplaced).toOption = (Query.ofTree plainQuery).toOption ∧
      (Query.ofTree plainQuery).toOption.map (fun q => q.filters.map Filter.field) =
        some ["tags"] := by
  have hspace : ∀ c ∈ [' '], isBlank c = true := List.forall_mem_singleton.2 (by decide)
  have htab : ∀ c ∈ ['\t'], isBlank c = true := List.forall_mem_singleton.2 (by decide)
  have htask : IsPadded "task".toList " task ".toList := ⟨[' '], [' '], hspace, hspace, rfl⟩
  have hequal : IsPadded "=".toList "\t= ".toList := ⟨['\t'], [' '], htab, hspace, rfl⟩
  have hbreak : (leaf "\n" 0 1).IsBlankLeaf :=
    ⟨rfl, ⟨"\n", rfl, List.all_eq_true.1 (by decide)⟩, rfl⟩
  have hspaces : (leaf "   " 5 6).IsBlankLeaf :=
    ⟨rfl, ⟨"   ", rfl, List.all_eq_true.1 (by decide)⟩, rfl⟩
  have hrespaced : Respaced plainQuery paddedQuery := by
    refine ⟨.same _, .blank hbreak (.node (.same _) ?_ .nil)⟩
    refine .node (.same _) (.node (.text rfl rfl htask) .nil .nil) (.blank hspaces ?_)
    refine .node (.same _) (.node (.same _) (.node (.same _) .nil .nil) ?_) .nil
    refine .node (.text rfl rfl hequal) .nil (.node (.same _) ?_ .nil)
    exact .node (.same _) (.node (.same _) .nil .nil) .nil
  obtain ⟨hsame, hplaces⟩ := Query.ofTree_respaced hrespaced
  exact ⟨hrespaced, hsame, hplaces paddedQuery.unplaced rfl, by decide +kernel⟩

end NoteQuery
