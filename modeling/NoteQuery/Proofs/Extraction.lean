import NoteQuery.Proofs.Delimiters

/-!
# The query of a derivation's tree

A query can be read off the tree of every derivation whose tokens are spelled as the lexer spells
them, and it is the query that the derivation means. What the reader expects of a node, its first
children and the texts of its leaves, is what the grammar has put there.
-/

namespace NoteQuery.Syntax

open NoteQuery.Tree

/-! ## Leaves -/

theorem leafText_spanning_leafOf (tag : String) (t : Token) :
    leafText (.spanning tag [leafOf t]) = .ok t.text := rfl

/-- A node over one token has no white space in it. -/
theorem normalize_spanning_leafOf {p : Token → Bool} [IsSolid p] (tag : String) (t : TokenOf p)
    (hspelled : t.1.IsSpelled) :
    (Tree.spanning tag [leafOf t.1]).normalize = .spanning tag [leafOf t.1] := by
  have hchildren : normalizedAll [leafOf t.1] = [leafOf t.1] := by
    rw [normalizedAll_leafOf_cons t hspelled, normalizedAll_nil]
  show (⟨(Tree.spanning tag [leafOf t.1]).label, normalizedAll [leafOf t.1]⟩ : Tree) = _
  rw [hchildren]
  rfl

theorem normalizedAll_spanning_leafOf_cons {p : Token → Bool} [IsSolid p] (tag : String)
    (t : TokenOf p) (hspelled : t.1.IsSpelled) (ts : List Tree) :
    normalizedAll (.spanning tag [leafOf t.1] :: ts) =
      .spanning tag [leafOf t.1] :: normalizedAll ts := by
  rw [normalizedAll_spanning_cons, normalize_spanning_leafOf tag t hspelled]

theorem children_normalize_spanning_spanning (tag tag' : String) (children : List Tree) :
    (Tree.spanning tag [.spanning tag' children]).normalize.children =
      [(Tree.spanning tag' children).normalize] := by
  rw [children_normalize, spanning, normalizedAll_spanning_cons, normalizedAll_nil]

theorem strippedText_spanning_leafOf (tag : String) {t : Token} {width : Nat} (hwidth : 1 ≤ width)
    (hlength : 2 * width ≤ t.text.toList.length) :
    strippedText (.spanning tag [leafOf t]) width = .ok (inside width t.text) := by
  rw [String.length_toList] at hlength
  rw [strippedText_eq (leafText_spanning_leafOf tag t) hwidth, if_pos hlength]

/-! ## Searching nodes over tokens -/

section

variable {tag : String}

theorem find?_of_not_hasTag {t : Tree} (ht : t.hasTag tag = false) :
    t.find? tag = firstIn? tag t.children := by
  rw [find?_eq_firstIn?, firstIn?_cons_of_not_hasTag ht, firstIn?_nil, Option.or_none]

theorem firstIn?_leafOf_cons (t : Token) (ts : List Tree) :
    firstIn? tag (leafOf t :: ts) = firstIn? tag ts := by
  rw [firstIn?_cons_of_not_hasTag rfl]
  show (firstIn? tag []).or _ = _
  rw [firstIn?_nil, Option.none_or]

theorem hasTag_spanning_of_ne {tag' : String} (h : tag' ≠ tag) (children : List Tree) :
    (Tree.spanning tag' children).hasTag tag = false := by
  simp [hasTag, Tree.tag, spanning, h]

theorem firstIn?_spanning_leafOf_cons {tag' : String} (h : tag' ≠ tag) (t : Token)
    (ts : List Tree) : firstIn? tag (.spanning tag' [leafOf t] :: ts) = firstIn? tag ts := by
  rw [firstIn?_cons_of_not_hasTag (hasTag_spanning_of_ne h _)]
  show (firstIn? tag [leafOf t]).or _ = _
  rw [firstIn?_leafOf_cons, firstIn?_nil, Option.none_or]

theorem firstIn?_spanning_cons_self (children ts : List Tree) :
    firstIn? tag (.spanning tag children :: ts) = some (.spanning tag children) :=
  firstIn?_cons_of_hasTag (by simp [hasTag, Tree.tag, spanning]) ts

end

/-! ## Literals -/

theorem ofText?_eq_numberOf {t : Token} (hkind : t.kind = .number) (hspelled : t.IsSpelled) :
    Binary64.ofText? t.text = some (numberOf t) := by
  rw [Token.IsSpelled, hkind] at hspelled
  obtain ⟨x, hx⟩ := Option.isSome_iff_exists.1 (Binary64.isSome_ofText? hspelled)
  rw [numberOf, hx]
  rfl

theorem two_le_length_of_isSpelled {t : Token} (hspelled : t.IsSpelled)
    (hkind : t.kind = .string ∨ t.kind = .regex) : 2 ≤ t.text.toList.length := by
  rcases hkind with hkind | hkind
  · rw [Token.IsSpelled, hkind] at hspelled
    obtain ⟨quote, body, -, htext⟩ := hspelled
    simp [htext]
  · rw [Token.IsSpelled, hkind] at hspelled
    obtain ⟨body, htext⟩ := hspelled
    simp [htext]

theorem four_le_length_of_isSpelled {t : Token} (hspelled : t.IsSpelled)
    (hkind : t.kind = .pageRef) : 4 ≤ t.text.toList.length := by
  rw [Token.IsSpelled, hkind] at hspelled
  obtain ⟨body, htext⟩ := hspelled
  simp [htext]

theorem literal_number {t : Token} (hkind : t.kind = .number) (hspelled : t.IsSpelled) :
    literal (.spanning Tag.number [leafOf t]) = .ok (.number (numberOf t)) := by
  have hnumber := ofText?_eq_numberOf hkind hspelled
  rw [spanning, literal, if_pos (by rfl)]
  show (leafText (.spanning Tag.number [leafOf t]) >>= _) = _
  rw [leafText_spanning_leafOf, ok_bind, hnumber]
  rfl

theorem literal_bool (t : Token) :
    literal (.spanning Tag.bool [leafOf t]) = .ok (.bool (t.text == "true")) := by
  rw [spanning, literal]
  rfl

theorem literal_null (t : Token) : literal (.spanning Tag.null [leafOf t]) = .ok .null := by
  rw [spanning, literal]
  rfl

theorem literal_name (t : Token) :
    literal (.spanning Tag.name [leafOf t]) = .ok (.string t.text) := by
  rw [spanning, literal]
  rfl

theorem literal_delimited {tag : String} {t : Token} (htag : tag = Tag.regex ∨ tag = Tag.string)
    (hlength : 2 ≤ t.text.toList.length) :
    literal (.spanning tag [leafOf t]) = .ok (.string (inside 1 t.text)) := by
  have hquoted : (Tree.spanning tag [leafOf t]).hasTag Tag.string ∨
      (Tree.spanning tag [leafOf t]).hasTag Tag.regex := by
    rcases htag with rfl | rfl
    · exact .inr rfl
    · exact .inl rfl
  rw [literal_of_quoted hquoted, strippedText_spanning_leafOf tag (Nat.le_refl 1) hlength]
  rfl

theorem literal_pageRef {t : Token} (hlength : 4 ≤ t.text.toList.length) :
    literal (.spanning Tag.pageRef [leafOf t]) = .ok (.pageRef (inside 2 t.text)) := by
  rw [literal_of_hasTag_pageRef rfl,
    strippedText_spanning_leafOf Tag.pageRef (Nat.le_succ 1) hlength]
  rfl

/-- Every value of one token has a literal that can be read. -/
theorem literal_spanning_literalTag (t : TokenOf isLiteral) (hspelled : t.1.IsSpelled) :
    literal (.spanning (literalTag t) [leafOf t.1]) = .ok (literalMeaning t.1) := by
  have htag := literalTag?_eq t
  have hsome := t.2
  unfold literalTag? at htag
  unfold literalMeaning
  cases hkind : t.1.kind with
  | number =>
    rw [hkind] at htag
    rw [← Option.some.inj htag, literal_number hkind hspelled]
  | string =>
    rw [hkind] at htag
    rw [← Option.some.inj htag]
    exact literal_delimited (.inr rfl) (two_le_length_of_isSpelled hspelled (.inl hkind))
  | regex =>
    rw [hkind] at htag
    rw [← Option.some.inj htag]
    exact literal_delimited (.inl rfl) (two_le_length_of_isSpelled hspelled (.inr hkind))
  | pageRef =>
    rw [hkind] at htag
    rw [← Option.some.inj htag]
    exact literal_pageRef (four_le_length_of_isSpelled hspelled hkind)
  | identifier =>
    rw [hkind] at htag
    dsimp only at htag ⊢
    by_cases hbool : t.1.text = "true" ∨ t.1.text = "false"
    · rw [if_pos hbool] at htag ⊢
      rw [← Option.some.inj htag, literal_bool]
    · rw [if_neg hbool] at htag ⊢
      by_cases hnull : t.1.text = "null"
      · rw [if_pos hnull] at htag ⊢
        rw [← Option.some.inj htag, literal_null]
      · rw [if_neg hnull] at htag ⊢
        split at htag
        · rw [← Option.some.inj htag, literal_name]
        · cases htag
  -- tokens of the other kinds are no values
  | _ => simp [isLiteral, isName, hkind] at hsome

/-! ## Values -/

theorem literal_of_list {t : Tree} (ht : t.tag = some Tag.list) :
    literal t = itemValues t.children >>= fun items => .ok (.list items) := by
  obtain ⟨label, children⟩ := t
  have hlabel : label.tag = some Tag.list := ht
  rw [literal]
  simp only [hasTag, Tree.tag, hlabel]
  rfl

theorem itemValues_leafOf_cons (t : Token) (ts : List Tree) :
    itemValues (leafOf t :: ts) = itemValues ts := by
  have hleaf : itemValuesIn (leafOf t) = .ok [] := rfl
  rw [itemValues, hleaf, ok_bind]
  cases itemValues ts <;> rfl

theorem itemValues_value_cons {t node : Tree} {ts : List Tree} {x : Value} {xs : List Value}
    (ht : t.hasTag Tag.value = true) (hchildren : t.children = [node])
    (hnode : literal node = .ok x)
    (hts : itemValues ts = .ok xs) : itemValues (t :: ts) = .ok (x :: xs) := by
  obtain ⟨label, children⟩ := t
  obtain rfl : children = [node] := hchildren
  have hitem : itemValuesIn ⟨label, [node]⟩ = .ok [x] := by
    rw [itemValuesIn, if_pos ht, hnode]
    rfl
  rw [itemValues, hitem, hts]
  rfl

theorem ValuePhrase.hasTag_tree (v : ValuePhrase) : v.tree.hasTag Tag.value = true := by
  cases v <;> rfl

mutual

/-- The literal of a value's node is read as what the value means. -/
theorem literal_of_valuePhrase (v : ValuePhrase) (hspelled : AllSpelled v.tokens) :
    ∃ node, v.tree.normalize.children = [node] ∧ literal node = .ok v.meaning := by
  match v with
  | .literal t =>
    have ht : t.1.IsSpelled := (allSpelled_cons_iff.1 hspelled).1
    refine ⟨_, children_normalize_spanning_spanning _ _ _, ?_⟩
    rw [normalize_spanning_leafOf (literalTag t) t ht, literal_spanning_literalTag t ht]
    rfl
  | .emptyList opening gap closing =>
    simp only [ValuePhrase.tokens, allSpelled_cons_iff, allSpelled_append_iff] at hspelled
    obtain ⟨hopening, hgap, hclosing, -⟩ := hspelled
    refine ⟨_, children_normalize_spanning_spanning _ _ _, ?_⟩
    rw [literal_of_list rfl, children_normalize]
    show itemValues
      (normalizedAll (leafOf opening.1 :: (gap.leaves ++ [leafOf closing.1]))) >>= _ = _
    rw [normalizedAll_leafOf_cons opening hopening, normalizedAll_gap_append gap hgap,
      normalizedAll_leafOf_cons closing hclosing, normalizedAll_nil, itemValues_leafOf_cons,
      itemValues_leafOf_cons]
    rfl
  | .list opening gap items =>
    simp only [ValuePhrase.tokens, allSpelled_cons_iff, allSpelled_append_iff] at hspelled
    obtain ⟨hopening, hgap, hitems⟩ := hspelled
    refine ⟨_, children_normalize_spanning_spanning _ _ _, ?_⟩
    rw [literal_of_list rfl, children_normalize]
    show itemValues (normalizedAll (leafOf opening.1 :: (gap.leaves ++ items.trees))) >>= _ = _
    rw [normalizedAll_leafOf_cons opening hopening, normalizedAll_gap_append gap hgap,
      itemValues_leafOf_cons, itemValues_of_itemPhrases items hitems]
    rfl

theorem itemValues_of_itemPhrases (is : ItemPhrases) (hspelled : AllSpelled is.tokens) :
    itemValues (normalizedAll is.trees) = .ok is.meanings := by
  match is with
  | .last item gap closing =>
    simp only [ItemPhrases.tokens, allSpelled_cons_iff, allSpelled_append_iff] at hspelled
    obtain ⟨hitem, hgap, hclosing, -⟩ := hspelled
    obtain ⟨node, hchildren, hnode⟩ := literal_of_valuePhrase item hitem
    have hrest : itemValues (normalizedAll (gap.leaves ++ [leafOf closing.1])) = .ok [] := by
      rw [normalizedAll_gap_append gap hgap, normalizedAll_leafOf_cons closing hclosing,
        normalizedAll_nil, itemValues_leafOf_cons]
      rfl
    rw [ItemPhrases.trees, normalizedAll_cons_of_hasTag item.hasTag_tree]
    exact itemValues_value_cons item.hasTag_tree hchildren hnode hrest
  | .more item gap comma gap' items =>
    simp only [ItemPhrases.tokens, allSpelled_cons_iff, allSpelled_append_iff] at hspelled
    obtain ⟨hitem, hgap, hcomma, hgap', hitems⟩ := hspelled
    obtain ⟨node, hchildren, hnode⟩ := literal_of_valuePhrase item hitem
    have hrest : itemValues (normalizedAll (gap.leaves ++ leafOf comma.1 ::
        (gap'.leaves ++ items.trees))) = .ok items.meanings := by
      rw [normalizedAll_gap_append gap hgap, normalizedAll_leafOf_cons comma hcomma,
        itemValues_leafOf_cons, normalizedAll_gap_append gap' hgap',
        itemValues_of_itemPhrases items hitems]
    rw [ItemPhrases.trees, normalizedAll_cons_of_hasTag item.hasTag_tree]
    exact itemValues_value_cons item.hasTag_tree hchildren hnode hrest

end

/-! ## Filters -/

theorem children_normalize_filter (f : FilterPhrase) (hspelled : AllSpelled f.tokens) :
    f.tree.normalize.children =
      [nameTree f.field, leafOf f.operator.1, f.operand.tree.normalize] := by
  obtain ⟨field, gap, operator, gap', operand⟩ := f
  simp only [FilterPhrase.tokens, allSpelled_cons_iff, allSpelled_append_iff] at hspelled
  obtain ⟨hfield, hgap, hoperator, hgap', hoperand⟩ := hspelled
  show normalizedAll (nameTree field :: (gap.leaves ++ leafOf operator.1 ::
    (gap'.leaves ++ [operand.tree]))) = _
  rw [nameTree, normalizedAll_spanning_leafOf_cons _ field hfield,
    normalizedAll_gap_append gap hgap, normalizedAll_leafOf_cons operator hoperator,
    normalizedAll_gap_append gap' hgap', normalizedAll_cons_of_hasTag operand.hasTag_tree,
    normalizedAll_nil]

/-- The lexer's operators, and the word `in`, are comparisons. -/
theorem exists_ofSymbol?_eq_some {t : Token} (ht : isComparison t = true) (hspelled : t.IsSpelled) :
    ∃ comparison, Comparison.ofSymbol? t.text = some comparison := by
  simp only [isComparison, Bool.or_eq_true, beq_iff_eq] at ht
  rcases ht with hkind | hword
  · rw [Token.IsSpelled, hkind] at hspelled
    obtain ⟨comparison, htext⟩ := hspelled
    have htext : t.text = comparison.symbol := String.toList_inj.1 htext
    exact ⟨comparison, by rw [htext, Comparison.ofSymbol?_symbol]⟩
  · exact ⟨.isIn, by rw [text_of_isWord hword]; rfl⟩

theorem toFilter_eq_ok {node name operator operand inner : Tree} {field symbol : String}
    {comparison : Comparison} {value : Value}
    (hchildren : node.children = [name, operator, operand])
    (hname : name.hasTag Tag.name = true) (hfield : leafText name = .ok field)
    (hsymbol : operator.text = some symbol)
    (hcomparison : Comparison.ofSymbol? symbol = some comparison)
    (hoperand : operand.hasTag Tag.value = true) (hinner : operand.children = [inner])
    (hvalue : literal inner = .ok value) : toFilter node = .ok ⟨comparison, field, value⟩ := by
  have hfirst : childAt node 0 Tag.name = .ok name := by
    rw [childAt, hchildren]
    exact if_pos hname
  have hlast : childAt node 2 Tag.value = .ok operand := by
    rw [childAt, hchildren]
    exact if_pos hoperand
  have hliteral : literalOf operand = .ok inner := by rw [literalOf, hinner]
  -- the operator is taken by its place, not by a tag
  have htext : node.children[1]?.bind Tree.text = some symbol := by
    rw [hchildren]
    exact hsymbol
  rw [toFilter, hfirst, ok_bind, hfield, ok_bind, htext]
  dsimp only
  rw [pure_bind, hcomparison]
  dsimp only
  rw [pure_bind, hlast, ok_bind, hliteral, ok_bind, hvalue]
  rfl

theorem toFilter_of_filterPhrase (f : FilterPhrase) (hspelled : AllSpelled f.tokens) :
    toFilter f.tree.normalize = .ok f.meaning := by
  have hchildren := children_normalize_filter f hspelled
  simp only [FilterPhrase.tokens, allSpelled_cons_iff, allSpelled_append_iff] at hspelled
  obtain ⟨-, -, hoperator, -, hoperand⟩ := hspelled
  obtain ⟨comparison, hcomparison⟩ := exists_ofSymbol?_eq_some f.operator.2 hoperator
  obtain ⟨inner, hinner, hvalue⟩ := literal_of_valuePhrase f.operand hoperand
  rw [toFilter_eq_ok hchildren rfl (leafText_spanning_leafOf Tag.name f.field.1) rfl hcomparison
    f.operand.hasTag_tree hinner hvalue, FilterPhrase.meaning, hcomparison]
  rfl

/-! ## Orders -/

/-- The node of a direction, if there is one. -/
def directionNodes (direction : Option DirectionPhrase) : List Tree :=
  direction.toList.map (fun d => .spanning Tag.orderDirection [leafOf d.word.1])

theorem children_normalize_order (o : OrderPhrase) (hspelled : AllSpelled o.tokens) :
    o.tree.normalize.children =
      leafOf o.word.1 :: leafOf o.byWord.1 :: nameTree o.field :: directionNodes o.direction := by
  obtain ⟨word, gap, byWord, gap', field, direction⟩ := o
  simp only [OrderPhrase.tokens, allSpelled_cons_iff, allSpelled_append_iff] at hspelled
  obtain ⟨hword, hgap, hby, hgap', hfield, hdirection⟩ := hspelled
  have hnodes :
      normalizedAll (direction.elim [] DirectionPhrase.trees) = directionNodes direction := by
    cases direction with
    | none => rfl
    | some d =>
      simp only [Option.elim_some, DirectionPhrase.tokens, allSpelled_append_iff,
        allSpelled_cons_iff] at hdirection
      obtain ⟨hbefore, hd, -⟩ := hdirection
      rw [Option.elim_some, DirectionPhrase.trees, normalizedAll_gap_append d.gap hbefore,
        normalizedAll_spanning_leafOf_cons _ d.word hd]
      rfl
  show normalizedAll (leafOf word.1 :: (gap.leaves ++ leafOf byWord.1 ::
    (gap'.leaves ++ nameTree field :: direction.elim [] DirectionPhrase.trees))) = _
  rw [normalizedAll_leafOf_cons word hword, normalizedAll_gap_append gap hgap,
    normalizedAll_leafOf_cons byWord hby, normalizedAll_gap_append gap' hgap', nameTree,
    normalizedAll_spanning_leafOf_cons _ field hfield, hnodes]

theorem toOrder_of_orderPhrase (o : OrderPhrase) (hspelled : AllSpelled o.tokens) :
    toOrder o.tree.normalize = .ok o.meaning := by
  have hchildren := children_normalize_order o hspelled
  have hname : o.tree.normalize.find? Tag.name = some (nameTree o.field) := by
    rw [find?_of_not_hasTag rfl, hchildren, firstIn?_leafOf_cons, firstIn?_leafOf_cons, nameTree,
      firstIn?_spanning_cons_self]
  have hdirection : o.tree.normalize.find? Tag.orderDirection =
      o.direction.map (fun d => .spanning Tag.orderDirection [leafOf d.word.1]) := by
    rw [find?_of_not_hasTag rfl, hchildren, firstIn?_leafOf_cons, firstIn?_leafOf_cons, nameTree,
      firstIn?_spanning_leafOf_cons (by decide)]
    cases o.direction with
    | none => exact firstIn?_nil
    | some d => exact firstIn?_spanning_cons_self _ _
  have hrequire : require o.tree.normalize Tag.name = .ok (nameTree o.field) := by
    rw [require, hname]
  rw [toOrder, hrequire, ok_bind, nameTree, leafText_spanning_leafOf, ok_bind, hdirection,
    OrderPhrase.meaning]
  cases o.direction <;> rfl

/-! ## Limits -/

theorem children_normalize_limit (l : LimitPhrase) (hspelled : AllSpelled l.tokens) :
    l.tree.normalize.children = [leafOf l.word.1, l.numberTree] := by
  obtain ⟨word, gap, number⟩ := l
  simp only [LimitPhrase.tokens, allSpelled_cons_iff, allSpelled_append_iff] at hspelled
  obtain ⟨hword, hgap, hnumber, -⟩ := hspelled
  show normalizedAll (leafOf word.1 :: (gap.leaves ++ [.spanning Tag.number [leafOf number.1]])) = _
  rw [normalizedAll_leafOf_cons word hword, normalizedAll_gap_append gap hgap,
    normalizedAll_spanning_leafOf_cons _ number hnumber, normalizedAll_nil]
  rfl

theorem toLimit_of_limitPhrase (l : LimitPhrase) (hspelled : AllSpelled l.tokens) :
    toLimit l.tree.normalize = l.meaning := by
  have hchildren := children_normalize_limit l hspelled
  simp only [LimitPhrase.tokens, allSpelled_cons_iff, allSpelled_append_iff] at hspelled
  obtain ⟨-, -, hnumber, -⟩ := hspelled
  have hfind : l.tree.normalize.find? Tag.number = some l.numberTree := by
    rw [find?_of_not_hasTag rfl, hchildren, firstIn?_leafOf_cons, LimitPhrase.numberTree,
      firstIn?_spanning_cons_self]
  have hrequire : require l.tree.normalize Tag.number = .ok l.numberTree := by rw [require, hfind]
  have hliteral : literal l.numberTree = .ok (.number (numberOf l.number.1)) :=
    literal_number (eq_of_beq l.number.2) hnumber
  have hnumber : (Value.number (numberOf l.number.1)).number?.bind admissibleLimit? =
      admissibleLimit? (numberOf l.number.1) := rfl
  rw [toLimit, hrequire, ok_bind, hliteral, ok_bind, LimitPhrase.meaning]
  dsimp only
  rw [hnumber]
  cases admissibleLimit? (numberOf l.number.1) <;> rfl

/-! ## Selections -/

/-- The nodes of a further name. -/
def furtherNodes (n : FurtherName) : List Tree := [leafOf n.comma.1, nameTree n.name]

theorem normalizedAll_furtherNames (further : List FurtherName)
    (hspelled : AllSpelled (further.flatMap FurtherName.tokens)) :
    normalizedAll (further.flatMap FurtherName.trees) = further.flatMap furtherNodes := by
  induction further with
  | nil => rfl
  | cons n further ih =>
    simp only [List.flatMap_cons, FurtherName.tokens, allSpelled_cons_iff, allSpelled_append_iff]
      at hspelled
    obtain ⟨⟨hgap, hcomma, hgap', hname, -⟩, hfurther⟩ := hspelled
    rw [List.flatMap_cons, List.flatMap_cons, normalizedAll_append, ih hfurther, FurtherName.trees,
      normalizedAll_gap_append n.beforeComma hgap, normalizedAll_leafOf_cons n.comma hcomma,
      normalizedAll_gap_append n.beforeName hgap', nameTree,
      normalizedAll_spanning_leafOf_cons _ n.name hname, normalizedAll_nil]
    rfl

theorem children_normalize_select (s : SelectPhrase) (hspelled : AllSpelled s.tokens) :
    s.tree.normalize.children =
      leafOf s.word.1 :: nameTree s.first :: s.further.flatMap furtherNodes := by
  obtain ⟨word, gap, first, further⟩ := s
  simp only [SelectPhrase.tokens, allSpelled_cons_iff, allSpelled_append_iff] at hspelled
  obtain ⟨hword, hgap, hfirst, hfurther⟩ := hspelled
  show normalizedAll (leafOf word.1 :: (gap.leaves ++ nameTree first ::
    further.flatMap FurtherName.trees)) = _
  rw [normalizedAll_leafOf_cons word hword, normalizedAll_gap_append gap hgap, nameTree,
    normalizedAll_spanning_leafOf_cons _ first hfirst, normalizedAll_furtherNames further hfurther]

theorem outermostAll_furtherNodes (further : List FurtherName) :
    outermostAll Tag.name (further.flatMap furtherNodes) =
      further.map (fun n => nameTree n.name) := by
  induction further with
  | nil => rfl
  | cons n further ih =>
    rw [List.flatMap_cons, outermostAll_append, ih]
    rfl

theorem toNames_map_nameTree (names : List (TokenOf isName)) :
    toNames (names.map nameTree) = .ok (names.map (fun name => name.1.text)) := by
  induction names with
  | nil => rfl
  | cons name names ih =>
    rw [List.map_cons, toNames, nameTree, leafText_spanning_leafOf, ok_bind, ih]
    rfl

theorem toNames_of_selectPhrase (s : SelectPhrase) (hspelled : AllSpelled s.tokens) :
    toNames (s.tree.normalize.outermost Tag.name) = .ok s.meaning := by
  have houtermost : s.tree.normalize.outermost Tag.name =
      (s.first :: s.further.map (fun n => n.name)).map nameTree := by
    rw [outermost_of_not_hasTag rfl, children_normalize_select s hspelled, outermostAll,
      outermostAll, outermostAll_furtherNodes, List.map_cons, List.map_map]
    rfl
  rw [houtermost, toNames_map_nameTree, SelectPhrase.meaning, List.map_cons, List.map_map]
  rfl

/-! ## Render clauses -/

theorem children_normalize_render (r : RenderPhrase) (hspelled : AllSpelled r.tokens) :
    r.tree.normalize.children =
      [leafOf r.word.1, .spanning (targetTag r.target.1) [leafOf r.target.1]] := by
  obtain ⟨word, gap, target⟩ := r
  simp only [RenderPhrase.tokens, allSpelled_cons_iff, allSpelled_append_iff] at hspelled
  obtain ⟨hword, hgap, htarget, -⟩ := hspelled
  show normalizedAll (leafOf word.1 ::
    (gap.leaves ++ [.spanning (targetTag target.1) [leafOf target.1]])) = _
  rw [normalizedAll_leafOf_cons word hword, normalizedAll_gap_append gap hgap,
    normalizedAll_spanning_leafOf_cons _ target htarget, normalizedAll_nil]

theorem toTemplate_of_renderPhrase (r : RenderPhrase) (hspelled : AllSpelled r.tokens) :
    toTemplate r.tree.normalize = .ok (some r.meaning) := by
  have hchildren := children_normalize_render r hspelled
  simp only [RenderPhrase.tokens, allSpelled_cons_iff, allSpelled_append_iff] at hspelled
  obtain ⟨-, -, htarget, -⟩ := hspelled
  by_cases hkind : r.target.1.kind = .pageRef
  · have hfind : r.tree.normalize.find? Tag.pageRef =
        some (.spanning Tag.pageRef [leafOf r.target.1]) := by
      rw [find?_of_not_hasTag rfl, hchildren, firstIn?_leafOf_cons, targetTag, if_pos hkind,
        firstIn?_spanning_cons_self]
    rw [toTemplate, hfind]
    dsimp only
    rw [pure_bind, literal_pageRef (four_le_length_of_isSpelled htarget hkind),
      RenderPhrase.meaning, if_pos hkind]
    rfl
  · have hstring : r.target.1.kind = .string := by
      have ht := r.target.2
      simpa [isTarget, hkind] using ht
    -- a page reference would be preferred
    have hpageRef : r.tree.normalize.find? Tag.pageRef = none := by
      rw [find?_of_not_hasTag rfl, hchildren, firstIn?_leafOf_cons, targetTag, if_neg hkind,
        firstIn?_spanning_leafOf_cons (by decide), firstIn?_nil]
    have hfind : r.tree.normalize.find? Tag.string =
        some (.spanning Tag.string [leafOf r.target.1]) := by
      rw [find?_of_not_hasTag rfl, hchildren, firstIn?_leafOf_cons, targetTag, if_neg hkind,
        firstIn?_spanning_cons_self]
    rw [toTemplate, hpageRef]
    dsimp only
    rw [hfind]
    dsimp only
    rw [pure_bind, literal_delimited (.inr rfl) (two_le_length_of_isSpelled htarget (.inl hstring)),
      RenderPhrase.meaning, if_neg hkind]
    rfl

end NoteQuery.Syntax
