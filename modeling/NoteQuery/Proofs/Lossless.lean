import NoteQuery.Proofs.Recognition
import NoteQuery.Proofs.Slices
import NoteQuery.Proofs.TreeSearch

/-!
# Syntax trees lose nothing

A syntax tree renders to the text that it was read from, and every node of it knows its place: its
offsets cut out of the text what the node renders to, and the children of a tagged node lie side by
side from its start to its stop (`ofSource_lossless`). Three facts meet there:

* the leaves of a derivation's tree are the leaves of its tokens, whatever the production
  (`Program.yields_tree`);
* the tokens of a text lie side by side and spell it (`Lexer.tile_of_tokensFrom`);
* a node of a tree has some of the tokens of the tree, without a gap (`Yields.exists_of_mem_walk`).
-/

namespace NoteQuery

open Text

namespace Tree

/-! ## Trees side by side -/

/-- Trees that lie side by side between two offsets. -/
def Tiles : Nat → List Tree → Nat → Prop
  | start, [], stop => start = stop
  | start, t :: ts, stop =>
    t.start = some start ∧ ∃ border, t.stop = some border ∧ Tiles border ts stop

variable {start stop : Nat} {t : Tree} {ts : List Tree}

theorem tiles_append_iff {us : List Tree} :
    Tiles start (ts ++ us) stop ↔ ∃ border, Tiles start ts border ∧ Tiles border us stop := by
  induction ts generalizing start with
  | nil => simp [Tiles]
  | cons t ts ih =>
    simp only [List.cons_append, Tiles, ih]
    constructor
    · rintro ⟨hstart, next, hnext, border, hts, hus⟩
      exact ⟨border, ⟨hstart, next, hnext, hts⟩, hus⟩
    · rintro ⟨border, ⟨hstart, next, hnext, hts⟩, hus⟩
      exact ⟨hstart, next, hnext, border, hts, hus⟩

theorem tiles_singleton_iff : Tiles start [t] stop ↔ t.start = some start ∧ t.stop = some stop := by
  simp [Tiles]

theorem getLast?_of_tiles (h : Tiles start (t :: ts) stop) :
    (t :: ts).getLast?.bind Tree.stop = some stop := by
  induction ts generalizing start t with
  | nil => exact (tiles_singleton_iff.1 h).2
  | cons u us ih =>
    obtain ⟨-, border, -, hrest⟩ := h
    rw [List.getLast?_cons_cons]
    exact ih hrest

/-- A node over trees that lie side by side has their outer offsets. -/
theorem tiles_spanning (tag : String) (h : Tiles start (t :: ts) stop) :
    Tiles start [.spanning tag (t :: ts)] stop :=
  tiles_singleton_iff.2 ⟨h.1, getLast?_of_tiles h⟩

end Tree

namespace Syntax

open NoteQuery.Tree

/-! ## Tokens of trees -/

/-- The text that tokens spell. -/
def textOf (tokens : List Token) : List Char := tokens.flatMap (fun t => t.text.toList)

@[simp] theorem textOf_append (tokens others : List Token) :
    textOf (tokens ++ others) = textOf tokens ++ textOf others := List.flatMap_append

theorem textOf_cons (t : Token) (tokens : List Token) :
    textOf (t :: tokens) = t.text.toList ++ textOf tokens := rfl

mutual

/-- A tree whose leaves are those of some tokens. Every other node is tagged, has a child, and takes
its offsets from its children. -/
inductive Yields : Tree → List Token → Prop
  | leaf (t : Token) : Yields (leafOf t) [t]
  | node (tag : String) {t : Tree} {ts : List Tree} {tokens : List Token}
    (h : YieldsAll (t :: ts) tokens) : Yields (.spanning tag (t :: ts)) tokens

/-- Trees whose leaves are, from left to right, those of some tokens. -/
inductive YieldsAll : List Tree → List Token → Prop
  | nil : YieldsAll [] []
  | cons {t : Tree} {ts : List Tree} {tokens others : List Token} (ht : Yields t tokens)
    (hts : YieldsAll ts others) : YieldsAll (t :: ts) (tokens ++ others)

end

/-- Tokens that lie side by side, like their leaves. -/
abbrev TokensTile (start : Nat) (tokens : List Token) (stop : Nat) : Prop :=
  Tiles start (tokens.map leafOf) stop

theorem tokensTile_append_iff {tokens others : List Token} {start stop : Nat} :
    TokensTile start (tokens ++ others) stop ↔
      ∃ border, TokensTile start tokens border ∧ TokensTile border others stop := by
  rw [TokensTile, List.map_append, tiles_append_iff]

/-- Tokens side by side take as many bytes as they spell. -/
theorem stop_of_tokensTile {tokens : List Token} {start stop : Nat}
    (h : TokensTile start tokens stop) : stop = start + byteSize (textOf tokens) := by
  induction tokens generalizing start with
  | nil => exact h.symm
  | cons t tokens ih =>
    obtain ⟨hstart, border, hborder, hrest⟩ := h
    have hstart : t.start = start := Option.some.inj hstart
    have hborder : t.start + t.text.utf8ByteSize = border := Option.some.inj hborder
    rw [ih hrest, textOf_cons, byteSize_append, byteSize_toList, ← hborder, hstart]
    omega

mutual

theorem Yields.tiles {t : Tree} {tokens : List Token} {start stop : Nat} (h : Yields t tokens)
    (htokens : TokensTile start tokens stop) : Tiles start [t] stop := by
  match h with
  | .leaf t => exact htokens
  | .node tag hall => exact tiles_spanning tag (hall.tiles htokens)

theorem YieldsAll.tiles {ts : List Tree} {tokens : List Token} {start stop : Nat}
    (h : YieldsAll ts tokens) (htokens : TokensTile start tokens stop) : Tiles start ts stop := by
  match h with
  | .nil => exact htokens
  | .cons ht hts =>
    obtain ⟨border, hfirst, hrest⟩ := tokensTile_append_iff.1 htokens
    exact tiles_append_iff.2 ⟨border, ht.tiles hfirst, hts.tiles hrest⟩

end

mutual

theorem Yields.toList_render {t : Tree} {tokens : List Token} (h : Yields t tokens) :
    t.render.toList = textOf tokens := by
  match h with
  | .leaf t => simp [leafOf, Tree.leaf, render, textOf]
  | .node tag hall => exact hall.toList_renderAll

theorem YieldsAll.toList_renderAll {ts : List Tree} {tokens : List Token}
    (h : YieldsAll ts tokens) : (renderAll ts).toList = textOf tokens := by
  match h with
  | .nil => rfl
  | .cons ht hts =>
    rw [renderAll, String.toList_append, textOf_append, ht.toList_render, hts.toList_renderAll]

end

mutual

/-- The tokens of a node stand next to each other among those of the tree. -/
theorem Yields.exists_of_mem_walk {t node : Tree} {tokens : List Token} (h : Yields t tokens)
    (hnode : node ∈ walk [t]) :
    ∃ before part after, tokens = before ++ (part ++ after) ∧ Yields node part := by
  rw [walk_cons, List.append_nil] at hnode
  match h with
  | .leaf t =>
    have hnil : walk (leafOf t).children = [] := by
      show walk [] = []
      rw [walk]
    rw [hnil, List.mem_singleton] at hnode
    subst hnode
    exact ⟨[], [t], [], rfl, .leaf t⟩
  | .node tag hall =>
    rcases List.mem_cons.1 hnode with rfl | hnode
    · exact ⟨[], tokens, [], by simp, .node tag hall⟩
    · exact hall.exists_of_mem_walk hnode

theorem YieldsAll.exists_of_mem_walk {ts : List Tree} {node : Tree} {tokens : List Token}
    (h : YieldsAll ts tokens) (hnode : node ∈ walk ts) :
    ∃ before part after, tokens = before ++ (part ++ after) ∧ Yields node part := by
  match h with
  | .nil =>
    rw [walk] at hnode
    cases hnode
  | @YieldsAll.cons t ts tokens others ht hts =>
    rw [← List.singleton_append, walk_append, List.mem_append] at hnode
    rcases hnode with hnode | hnode
    · obtain ⟨before, part, after, rfl, hpart⟩ := ht.exists_of_mem_walk hnode
      exact ⟨before, part, after ++ others, by simp, hpart⟩
    · obtain ⟨before, part, after, rfl, hpart⟩ := hts.exists_of_mem_walk hnode
      exact ⟨tokens ++ before, part, after, by simp, hpart⟩

end

/-! ## Trees of derivations -/

theorem Yields.singleton {t : Tree} {tokens : List Token} (h : Yields t tokens) :
    YieldsAll [t] tokens := by
  have hcons := YieldsAll.cons h .nil
  rwa [List.append_nil] at hcons

theorem YieldsAll.leaf_cons (t : Token) {ts : List Tree} {tokens : List Token}
    (h : YieldsAll ts tokens) : YieldsAll (leafOf t :: ts) (t :: tokens) := .cons (.leaf t) h

theorem YieldsAll.append {ts us : List Tree} {tokens others : List Token}
    (hts : YieldsAll ts tokens)
    (hus : YieldsAll us others) : YieldsAll (ts ++ us) (tokens ++ others) := by
  match hts with
  | .nil => exact hus
  | .cons ht hrest =>
    rw [List.cons_append, List.append_assoc]
    exact .cons ht (hrest.append hus)

theorem YieldsAll.gap_append (gap : Gap) {ts : List Tree} {tokens : List Token}
    (h : YieldsAll ts tokens) : YieldsAll (gap.leaves ++ ts) (gap.tokens ++ tokens) := by
  show YieldsAll (gap.tokens.map leafOf ++ ts) (gap.tokens ++ tokens)
  induction gap.tokens with
  | nil => exact h
  | cons t rest ih => exact .leaf_cons t ih

theorem yieldsAll_leaves (gap : Gap) : YieldsAll gap.leaves gap.tokens := by
  have happend := YieldsAll.gap_append gap .nil
  rwa [List.append_nil, List.append_nil] at happend

/-- A node over one token. -/
theorem yields_spanning_leafOf (tag : String) (t : Token) : Yields (.spanning tag [leafOf t]) [t] :=
  .node tag (Yields.leaf t).singleton

theorem yieldsAll_flatMap {α : Type} {trees : α → List Tree} {tokens : α → List Token}
    (h : ∀ x, YieldsAll (trees x) (tokens x)) (xs : List α) :
    YieldsAll (xs.flatMap trees) (xs.flatMap tokens) := by
  induction xs with
  | nil => exact .nil
  | cons x xs ih => exact (h x).append ih

mutual

theorem ValuePhrase.yields_tree (v : ValuePhrase) : Yields v.tree v.tokens := by
  match v with
  | .literal t => exact .node _ (yields_spanning_leafOf _ t.1).singleton
  | .emptyList opening gap closing =>
    have hinner : YieldsAll (leafOf opening.1 :: (gap.leaves ++ [leafOf closing.1]))
        (opening.1 :: (gap.tokens ++ [closing.1])) :=
      .leaf_cons opening.1 (.gap_append gap (Yields.leaf closing.1).singleton)
    exact .node _ (Yields.node _ hinner).singleton
  | .list opening gap items =>
    have hinner : YieldsAll (leafOf opening.1 :: (gap.leaves ++ items.trees))
        (opening.1 :: (gap.tokens ++ items.tokens)) :=
      .leaf_cons opening.1 (.gap_append gap items.yieldsAll_trees)
    exact .node _ (Yields.node _ hinner).singleton

theorem ItemPhrases.yieldsAll_trees (is : ItemPhrases) : YieldsAll is.trees is.tokens := by
  match is with
  | .last item gap closing =>
    exact .cons item.yields_tree (.gap_append gap (Yields.leaf closing.1).singleton)
  | .more item gap comma gap' items =>
    exact .cons item.yields_tree
      (.gap_append gap (.leaf_cons comma.1 (.gap_append gap' items.yieldsAll_trees)))

end

theorem yields_nameTree (name : TokenOf isName) : Yields (nameTree name) [name.1] :=
  yields_spanning_leafOf _ name.1

theorem FilterPhrase.yields_tree (f : FilterPhrase) : Yields f.tree f.tokens :=
  .node _ (.cons (yields_nameTree f.field) (.gap_append f.beforeOperator
    (.leaf_cons f.operator.1 (.gap_append f.beforeOperand f.operand.yields_tree.singleton))))

theorem OrderPhrase.yields_tree (o : OrderPhrase) : Yields o.tree o.tokens := by
  have hdirection : YieldsAll (o.direction.elim [] DirectionPhrase.trees)
      (o.direction.elim [] DirectionPhrase.tokens) := by
    cases o.direction with
    | none => exact .nil
    | some d => exact .gap_append d.gap (yields_spanning_leafOf _ d.word.1).singleton
  exact .node _ (.leaf_cons o.word.1 (.gap_append o.beforeBy (.leaf_cons o.byWord.1
    (.gap_append o.beforeField (.cons (yields_nameTree o.field) hdirection)))))

theorem LimitPhrase.yields_tree (l : LimitPhrase) : Yields l.tree l.tokens :=
  .node _ (.leaf_cons l.word.1 (.gap_append l.gap (yields_spanning_leafOf _ l.number.1).singleton))

theorem FurtherName.yieldsAll_trees (n : FurtherName) : YieldsAll n.trees n.tokens :=
  .gap_append n.beforeComma (.leaf_cons n.comma.1
    (.gap_append n.beforeName (yields_nameTree n.name).singleton))

theorem SelectPhrase.yields_tree (s : SelectPhrase) : Yields s.tree s.tokens :=
  .node _ (.leaf_cons s.word.1 (.gap_append s.gap
    (.cons (yields_nameTree s.first) (yieldsAll_flatMap FurtherName.yieldsAll_trees s.further))))

theorem RenderPhrase.yields_tree (r : RenderPhrase) : Yields r.tree r.tokens :=
  .node _ (.leaf_cons r.word.1 (.gap_append r.gap (yields_spanning_leafOf _ r.target.1).singleton))

theorem Clause.yieldsAll_trees (c : Clause) : YieldsAll c.trees c.tokens := by
  cases c with
  | filter connective f =>
    cases connective with
    | none => exact f.yields_tree.singleton
    | some c => exact .leaf_cons c.word.1 (.gap_append c.gap f.yields_tree.singleton)
  | order o => exact o.yields_tree.singleton
  | limit l => exact l.yields_tree.singleton
  | select s => exact s.yields_tree.singleton
  | render r => exact r.yields_tree.singleton

theorem SpacedClause.yieldsAll_trees (c : SpacedClause) : YieldsAll c.trees c.tokens :=
  .gap_append c.gap c.clause.yieldsAll_trees

theorem QueryPhrase.yields_tree (q : QueryPhrase) : Yields q.tree q.tokens :=
  .node _ (.cons (yields_spanning_leafOf _ q.table.1)
    (yieldsAll_flatMap SpacedClause.yieldsAll_trees q.clauses))

/-- The end of the text takes no room. -/
theorem tokensTile_of_finish {tokens : List Token} {finish : Token} {start stop : Nat}
    (h : TokensTile start (tokens ++ [finish]) stop) (hfinish : finish.text = "") :
    TokensTile start tokens stop := by
  obtain ⟨border, htokens, hlast⟩ := tokensTile_append_iff.1 h
  have hstop := stop_of_tokensTile hlast
  have hborder : stop = border := by simpa [textOf, hfinish] using hstop
  rwa [hborder]

namespace Program

/-- The tokens of a text but for the end of the text. -/
def spelled (p : Program) : List Token := p.lead.tokens ++ (p.query.tokens ++ p.trail.tokens)

theorem tokens_eq_spelled_append (p : Program) : p.tokens = p.spelled ++ [p.finish.1] := by
  simp [tokens, spelled]

/-- The root takes its offsets from the text; they are those of its children. -/
theorem yields_tree (p : Program) {size : Nat} (htokens : TokensTile 0 p.spelled size) :
    Yields (p.tree size) p.spelled := by
  have hchildren : YieldsAll (p.lead.leaves ++ p.query.tree :: p.trail.leaves) p.spelled :=
    .gap_append p.lead (.cons p.query.yields_tree (yieldsAll_leaves p.trail))
  have htiles := hchildren.tiles htokens
  have htree : p.tree size =
      ⟨{ tag := some Tag.program, start := some 0, stop := some size },
        p.lead.leaves ++ p.query.tree :: p.trail.leaves⟩ := rfl
  rw [htree]
  obtain ⟨t, ts, hcons⟩ := List.exists_cons_of_ne_nil
    (l := p.lead.leaves ++ p.query.tree :: p.trail.leaves) (by simp)
  rw [hcons] at htiles hchildren ⊢
  have hstart : t.start = some 0 := htiles.1
  have hspanning : Tree.spanning Tag.program (t :: ts) =
      ⟨{ tag := some Tag.program, start := some 0, stop := some size }, t :: ts⟩ := by
    rw [spanning, getLast?_of_tiles htiles, List.head?_cons, Option.bind_some, hstart]
  rw [← hspanning]
  exact .node Tag.program hchildren

end Program

end Syntax

/-! ## Tokens of texts -/

open Syntax NoteQuery.Tree

/-- The tokens of a text lie side by side from its start to its end, and spell it. -/
theorem Lexer.tile_of_tokensFrom {offset : Nat} {cs : List Char} {tokens : List Token}
    (h : tokensFrom offset cs = .ok tokens) :
    TokensTile offset tokens (offset + byteSize cs) ∧ textOf tokens = cs := by
  fun_induction tokensFrom offset cs generalizing tokens with
  | case1 offset =>
    obtain rfl := Except.ok.inj h
    exact ⟨tiles_singleton_iff.2 ⟨rfl, rfl⟩, rfl⟩
  | case2 => cases h
  | case3 offset c cs lexeme hscan hlt token =>
    rename_i ih
    obtain ⟨others, hothers, h⟩ := exists_of_bind h
    obtain rfl := Except.ok.inj h
    obtain ⟨htiles, htext⟩ := ih hothers
    have hcs : lexeme.text ++ lexeme.rest = c :: cs := scan_append hscan
    have hstop : token.stop + byteSize lexeme.rest = offset + byteSize (c :: cs) := by
      show offset + (String.ofList lexeme.text).utf8ByteSize + byteSize lexeme.rest = _
      rw [utf8ByteSize_ofList, ← hcs, byteSize_append]
      omega
    rw [hstop] at htiles
    refine ⟨⟨rfl, token.stop, rfl, htiles⟩, ?_⟩
    rw [textOf_cons, htext, String.toList_ofList, hcs]

/-! ## Places of nodes -/

namespace Tree

/-- A node stands at a range of bytes of a text: its offsets are those of the range, the range holds
what the node renders to, and the children of a tagged node lie side by side from end to end. -/
structure StandsAt (cs : List Char) (range : ByteRange) (node : Tree) : Prop where
  start_eq : node.start = some range.start
  stop_eq : node.stop = some range.stop
  isSlice : IsSlice cs range node.render.toList
  children_ne_nil : node.tag ≠ none → node.children ≠ []
  tiles : node.tag ≠ none → Tiles range.start node.children range.stop

end Tree

/-- A tree over some tokens of a text stands where these tokens stand. -/
theorem Syntax.Yields.exists_standsAt {node : Tree} {before part after : List Token}
    (h : Yields node part) {size : Nat} (htokens : TokensTile 0 (before ++ (part ++ after)) size) :
    ∃ range, node.StandsAt (textOf (before ++ (part ++ after))) range := by
  obtain ⟨start, hbefore, hrest⟩ := tokensTile_append_iff.1 htokens
  obtain ⟨stop, hpart, -⟩ := tokensTile_append_iff.1 hrest
  have hstart : start = byteSize (textOf before) := by simpa using stop_of_tokensTile hbefore
  have hstop : stop = start + byteSize (textOf part) := stop_of_tokensTile hpart
  obtain ⟨hfrom, hto⟩ := tiles_singleton_iff.1 (h.tiles hpart)
  refine ⟨⟨start, stop⟩, hfrom, hto, ⟨textOf before, textOf after, ?_, hstart.symm, ?_⟩, ?_, ?_⟩
  · rw [h.toList_render, textOf_append, textOf_append]
  · rw [h.toList_render, byteSize_append, ← hstart, ← hstop]
  · intro htag
    cases h with
    | leaf t => exact absurd rfl htag
    | node tag hall => exact List.cons_ne_nil _ _
  · intro htag
    cases h with
    | leaf t => exact absurd rfl htag
    | node tag hall => exact hall.tiles hpart

/-- The tree of a text renders to the text, and each of its nodes stands in the text where its
offsets say; the children of a tagged node fill its place without gaps. -/
theorem ofSource_lossless {source : String} {tree : Tree} (h : Tree.ofSource source = .ok tree) :
    tree.render = source ∧ ∀ node ∈ tree.nodes, ∃ range, node.StandsAt source.toList range := by
  obtain ⟨tokens, htokens, hprogram⟩ := exists_of_bind h
  obtain ⟨htiles, htext⟩ := Lexer.tile_of_tokensFrom htokens
  have hread := wellRead_of_tokenize htokens
  obtain ⟨p, rfl, rfl⟩ := exists_of_program hread hprogram
  -- the end of the text is the only token without a leaf
  have hfinish : p.finish.1.text = "" := by
    have hadmits := hread.admits p.finish.1 (by simp [Program.tokens])
    rw [eq_of_beq p.finish.2] at hadmits
    exact String.toList_eq_nil_iff.1 hadmits
  rw [Nat.zero_add, byteSize_toList] at htiles
  rw [p.tokens_eq_spelled_append] at htiles htext
  have hspelled := tokensTile_of_finish htiles hfinish
  have htext : textOf p.spelled = source.toList := by
    rw [← htext, textOf_append]
    simp [textOf, hfinish]
  have hyields := p.yields_tree hspelled
  constructor
  · apply String.toList_inj.1
    rw [hyields.toList_render, htext]
  · intro node hnode
    obtain ⟨before, part, after, heq, hpart⟩ := hyields.exists_of_mem_walk hnode
    rw [heq] at hspelled
    rw [← htext, heq]
    exact hpart.exists_standsAt hspelled

/-- A query with every kind of clause, nested lists, and white space at both ends. -/
def everyClause : String :=
  " t where a in [1, [ ],[ 'é']] order by c desc limit 3 select d , e render [[p]]\n"

theorem ofSource_lossless_everyClause :
    ∃ tree, Tree.ofSource everyClause = .ok tree ∧ tree.render = everyClause ∧
      ∀ node ∈ tree.nodes, ∃ range, node.StandsAt everyClause.toList range := by
  have hread : (Tree.ofSource everyClause).isOk = true := by decide +kernel
  cases htree : Tree.ofSource everyClause with
  | error e =>
    rw [htree] at hread
    cases hread
  | ok tree => exact ⟨tree, rfl, ofSource_lossless htree⟩

end NoteQuery
