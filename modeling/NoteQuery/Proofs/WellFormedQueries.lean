import NoteQuery.Proofs.LooseQueries
import NoteQuery.Proofs.OrderedMaps
import NoteQuery.Proofs.Preparation
import NoteQuery.Proofs.Spacing

/-!
# Well-formed queries

What a query is like that was read from a tree, be it the grammar's or a host's (`IsWellFormed`):
its table has a name, it has a direction only with an order, and its filters have values that
literals can spell. Such a value has a match text, so preparing the filters fails only where the
pattern itself is refused (`IsWellFormed.exists_of_conditions_eq_error`).

A query that was read from a text also has names that the grammar allows wherever it has a name
(`HasNames`). A host's tree may hold any text in their place.
-/

namespace NoteQuery

namespace Value

/-! ## Values of literals -/

/-- Nothing in the value is undefined or a map, at any depth. -/
def IsLiteral (v : Value) : Prop :=
  ∀ part ∈ v.parts, part ≠ undefined ∧ ∀ entries, part ≠ map entries

theorem isLiteral_of_parts_eq {v : Value} (hparts : v.parts = [v]) (hdefined : v ≠ undefined)
    (hmap : ∀ entries, v ≠ map entries) : v.IsLiteral := by
  unfold IsLiteral
  rw [hparts]
  intro part hpart
  rw [List.mem_singleton.1 hpart]
  exact ⟨hdefined, hmap⟩

theorem isLiteral_list_iff {items : List Value} :
    (list items).IsLiteral ↔ ∀ item ∈ items, item.IsLiteral := by
  simp only [IsLiteral, mem_parts_list_iff]
  grind

/-- Only undefined values and maps are without match text. -/
theorem IsLiteral.exists_matchText? {v : Value} (h : v.IsLiteral) :
    ∃ text, v.matchText? = some text := by
  cases v with
  | undefined => exact absurd rfl (h undefined (List.mem_singleton_self _)).1
  | map entries => exact absurd rfl ((h (map entries) List.mem_cons_self).2 entries)
  | _ => exact ⟨_, rfl⟩

end Value

namespace Tree

/-- Values that are made of a text are literals if all of them are. -/
private theorem isLiteral_of_bind {x : Except ShapeError String} {build : String → Value}
    {v : Value}
    (h : (do let text ← x; return build text) = .ok v) (hbuild : ∀ text, (build text).IsLiteral) :
    v.IsLiteral := by
  obtain ⟨text, -, h⟩ := exists_of_bind h
  obtain rfl := Except.ok.inj h
  exact hbuild text

mutual

/-- A literal has the value of a literal, whatever the tree below it. -/
theorem isLiteral_of_literal (t : Tree) {v : Value} (h : literal t = .ok v) : v.IsLiteral := by
  match t with
  | ⟨label, children⟩ =>
    rw [literal] at h
    -- one case for each tag, in the order in which they are looked for
    split_ifs at h
    · obtain ⟨text, -, h⟩ := exists_of_bind h
      split at h
      · obtain rfl := Except.ok.inj h
        exact Value.isLiteral_of_parts_eq rfl nofun nofun
      · cases h
    · exact isLiteral_of_bind h (fun _ => Value.isLiteral_of_parts_eq rfl nofun nofun)
    · obtain rfl := Except.ok.inj h
      exact Value.isLiteral_of_parts_eq rfl nofun nofun
    · exact isLiteral_of_bind h (fun _ => Value.isLiteral_of_parts_eq rfl nofun nofun)
    · exact isLiteral_of_bind h (fun _ => Value.isLiteral_of_parts_eq rfl nofun nofun)
    · exact isLiteral_of_bind h (fun _ => Value.isLiteral_of_parts_eq rfl nofun nofun)
    · obtain ⟨items, hitems, h⟩ := exists_of_bind h
      obtain rfl := Except.ok.inj h
      exact Value.isLiteral_list_iff.2 (forall_isLiteral_of_itemValues children hitems)

theorem forall_isLiteral_of_itemValues (ts : List Tree) {items : List Value}
    (h : itemValues ts = .ok items) : ∀ item ∈ items, item.IsLiteral := by
  match ts with
  | [] =>
    obtain rfl := Except.ok.inj h
    nofun
  | t :: ts =>
    rw [itemValues] at h
    obtain ⟨first, hfirst, h⟩ := exists_of_bind h
    obtain ⟨rest, hrest, h⟩ := exists_of_bind h
    obtain rfl := Except.ok.inj h
    rw [List.forall_mem_append]
    exact ⟨forall_isLiteral_of_itemValuesIn t hfirst, forall_isLiteral_of_itemValues ts hrest⟩

theorem forall_isLiteral_of_itemValuesIn (t : Tree) {items : List Value}
    (h : itemValuesIn t = .ok items) : ∀ item ∈ items, item.IsLiteral := by
  match t with
  | ⟨label, []⟩ =>
    rw [itemValuesIn] at h
    split_ifs at h
    · cases h
    · exact forall_isLiteral_of_itemValues [] h
  | ⟨label, node :: nodes⟩ =>
    rw [itemValuesIn] at h
    split_ifs at h
    · obtain ⟨item, hitem, h⟩ := exists_of_bind h
      obtain rfl := Except.ok.inj h
      rw [List.forall_mem_singleton]
      exact isLiteral_of_literal node hitem
    · exact forall_isLiteral_of_itemValues (node :: nodes) h

end

/-! ## Parts of a query node -/

theorem isLiteral_of_toFilter {node : Tree} {f : Filter} (h : toFilter node = .ok f) :
    f.value.IsLiteral := by
  rw [toFilter] at h
  obtain ⟨name, -, h⟩ := exists_of_bind h
  obtain ⟨field, -, h⟩ := exists_of_bind h
  dsimp only at h
  split at h
  · cases h
  rw [pure_bind] at h
  split at h
  · cases h
  rw [pure_bind] at h
  obtain ⟨operand, -, h⟩ := exists_of_bind h
  obtain ⟨inner, -, h⟩ := exists_of_bind h
  obtain ⟨value, hvalue, h⟩ := exists_of_bind h
  obtain rfl := Except.ok.inj h
  exact isLiteral_of_literal inner hvalue

theorem forall_isLiteral_of_toFilters {nodes : List Tree} {filters : List Filter}
    (h : toFilters nodes = .ok filters) : ∀ f ∈ filters, f.value.IsLiteral := by
  induction nodes generalizing filters with
  | nil =>
    obtain rfl := Except.ok.inj h
    nofun
  | cons node nodes ih =>
    rw [toFilters] at h
    obtain ⟨f, hf, h⟩ := exists_of_bind h
    obtain ⟨rest, hrest, h⟩ := exists_of_bind h
    obtain rfl := Except.ok.inj h
    exact List.forall_mem_cons.2 ⟨isLiteral_of_toFilter hf, ih hrest⟩

theorem ne_empty_of_toTable {node : Tree} {table : String} (h : node.toTable = .ok table) :
    table ≠ "" := by
  rw [toTable] at h
  obtain ⟨tableNode, -, h⟩ := exists_of_bind h
  obtain ⟨text, -, h⟩ := exists_of_bind h
  split at h
  · cases h
  · rename_i hne
    obtain rfl := Except.ok.inj h
    rw [String.isEmpty_iff] at hne
    exact hne

end Tree

namespace Query

/-- What every query has that was read from a tree. -/
structure IsWellFormed (q : Query) : Prop where
  table_ne : q.table ≠ ""
  exists_orderBy : q.descending = true → ∃ field, q.orderBy = some field
  isLiteral_value : ∀ f ∈ q.filters, f.value.IsLiteral

theorem isWellFormed_of_ofNode {node : Tree} {q : Query} (h : ofNode node = .ok q) :
    q.IsWellFormed := by
  rw [ofNode] at h
  obtain ⟨table, htable, h⟩ := exists_of_bind h
  obtain ⟨order, -, h⟩ := exists_of_bind h
  obtain ⟨limit, -, h⟩ := exists_of_bind h
  obtain ⟨filters, hfilters, h⟩ := exists_of_bind h
  obtain ⟨select, -, h⟩ := exists_of_bind h
  obtain ⟨render, -, h⟩ := exists_of_bind h
  obtain rfl := Except.ok.inj h
  refine ⟨Tree.ne_empty_of_toTable htable, ?_, Tree.forall_isLiteral_of_toFilters hfilters⟩
  -- field and direction are read from one clause
  cases order with
  | none =>
    intro h
    cases h
  | some order => exact fun _ => ⟨order.1, rfl⟩

theorem isWellFormed_of_ofTree {tree : Tree} {q : Query} (h : ofTree tree = .ok q) :
    q.IsWellFormed := by
  rw [ofTree] at h
  split at h
  · cases h
  · exact isWellFormed_of_ofNode h

/-- Of a well-formed query a filter is refused for its pattern alone, and never for want of one. -/
theorem IsWellFormed.exists_of_conditions_eq_error {q : Query} (hq : q.IsWellFormed)
    {e : EvaluationError} (h : Filter.conditions q.filters = .error e) :
    ∃ f ∈ q.filters, ∃ source cause, f.value.matchText? = some source ∧
      Pattern.ofSource source = .error cause ∧ e = .invalidPattern source f.field cause := by
  obtain ⟨before, f, after, hsplit, hf, -⟩ := Filter.conditions_eq_error_iff.1 h
  have hmem : f ∈ q.filters := by
    rw [hsplit]
    exact List.mem_append_right before List.mem_cons_self
  obtain ⟨source, hsource⟩ := (hq.isLiteral_value f hmem).exists_matchText?
  cases hf with
  | noText _ hvalue =>
    rw [hvalue] at hsource
    cases hsource
  | tooLong source _ hvalue hsize =>
    refine ⟨f, hmem, source, .tooLong, hvalue, ?_, rfl⟩
    rw [Pattern.ofSource, if_pos hsize]
  | malformed source _ hvalue hsize hpattern =>
    refine ⟨f, hmem, source, .malformed, hvalue, ?_, rfl⟩
    rw [Pattern.ofSource, if_neg (Nat.not_lt.2 hsize), hpattern]

end Query

namespace QueryText

/-! ## Names in texts -/

/-- The text is an identifier that starts no clause. -/
def IsName (text : String) : Prop :=
  isIdentifier text.toList = true ∧ text ∉ Syntax.clauseKeywords

end QueryText

open QueryText (isIdentifier IsName)

namespace Lexer

theorem isIdentifier_of_scans {c : Char} {cs : List Char} {l : Lexeme} (h : Scans c cs l)
    (hkind : l.kind = .identifier) : isIdentifier l.text = true := by
  cases h with
  | identifier hc =>
    have hcontinues := continuesName_of_startsName hc
    rw [run, List.takeWhile_cons_of_pos hcontinues, isIdentifier, hc, Bool.true_and,
      List.all_eq_true]
    exact fun d hd => List.mem_takeWhile_imp hd
  | operator hc h =>
    rw [(exists_of_operator hc h).1] at hkind
    cases hkind
  | _ => cases hkind

/-- The identifiers among the tokens of a text are identifiers from their first character on. -/
theorem isIdentifier_of_tokensFrom {offset : Nat} {cs : List Char} {tokens : List Token}
    (h : tokensFrom offset cs = .ok tokens) :
    ∀ t ∈ tokens, t.kind = .identifier → isIdentifier t.text.toList = true := by
  fun_induction tokensFrom offset cs generalizing tokens with
  | case1 offset =>
    obtain rfl := Except.ok.inj h
    rw [List.forall_mem_singleton]
    intro hkind
    cases hkind
  | case2 => cases h
  | case3 offset c cs lexeme hscan hlt token =>
    rename_i ih
    obtain ⟨others, hothers, h⟩ := exists_of_bind h
    obtain rfl := Except.ok.inj h
    rw [List.forall_mem_cons]
    refine ⟨fun hkind => ?_, ih hothers⟩
    show isIdentifier (String.ofList lexeme.text).toList = true
    rw [String.toList_ofList]
    exact isIdentifier_of_scans (scans_of_scan hscan) hkind

end Lexer

namespace Query

/-- Wherever the query has a name, the name is one. -/
structure HasNames (q : Query) : Prop where
  table : IsName q.table
  filters : ∀ f ∈ q.filters, IsName f.field
  orderBy : ∀ field, q.orderBy = some field → IsName field
  select : ∀ fields, q.select = some fields → fields ≠ [] ∧ ∀ field ∈ fields, IsName field

end Query

namespace Syntax

/-- The names of a derivation are names if its identifiers are identifiers. -/
theorem QueryPhrase.hasNames_withLimit {q : QueryPhrase}
    (h : ∀ t ∈ q.tokens, t.kind = .identifier → isIdentifier t.text.toList = true)
    (limit : Option Nat) : (q.withLimit limit).HasNames := by
  have hname : ∀ name : TokenOf isName, name.1 ∈ q.tokens → IsName name.1.text := by
    intro name hmem
    exact ⟨h name.1 hmem (kind_of_isName name.2),
      fun hkeyword => text_ne_of_isName name.2 _ hkeyword rfl⟩
  constructor
  · exact hname q.table List.mem_cons_self
  · intro f hf
    obtain ⟨phrase, hphrase, rfl⟩ := List.mem_map.1 hf
    obtain ⟨c, hc, hfilter⟩ := List.mem_filterMap.1 hphrase
    exact hname phrase.field
      (mem_tokens_of_mem_clauses hc (mem_tokens_of_filter? hfilter List.mem_cons_self))
  · intro field horder
    obtain ⟨o, ho, rfl⟩ := Option.map_eq_some_iff.1 horder
    apply hname o.field
    apply mem_tokens_of_first? ClauseKind.order ho
    simp [ClauseKind.order, OrderPhrase.tokens]
  · intro fields hselect
    obtain ⟨s, hs, rfl⟩ := Option.map_eq_some_iff.1 hselect
    have hmem : ∀ t ∈ s.tokens, t ∈ q.tokens := by
      intro t ht
      exact mem_tokens_of_first? ClauseKind.select hs ht
    refine ⟨List.cons_ne_nil _ _, List.forall_mem_cons.2 ⟨?_, ?_⟩⟩
    · apply hname s.first
      apply hmem
      simp [SelectPhrase.tokens]
    · intro field hfield
      obtain ⟨n, hn, rfl⟩ := List.mem_map.1 hfield
      apply hname n.name
      apply hmem
      simp only [SelectPhrase.tokens, List.mem_cons, List.mem_append, List.mem_flatMap]
      exact .inr (.inr (.inr ⟨n, hn, by simp [FurtherName.tokens]⟩))

end Syntax

namespace Query

theorem hasNames_of_ofText {text : String} {q : Query} (h : ofText text = .ok q) : q.HasNames := by
  obtain ⟨p, hp, hmeaning⟩ := ofText_eq_ok_iff.1 h
  obtain ⟨limit, rfl⟩ := Syntax.QueryPhrase.exists_withLimit_of_meaning hmeaning
  apply Syntax.QueryPhrase.hasNames_withLimit
  intro t ht
  apply Lexer.isIdentifier_of_tokensFrom hp
  exact List.mem_append_right _ (List.mem_append_left _ ht)

theorem exists_ofTree_of_ofText {text : String} {q : Query} (h : ofText text = .ok q) :
    ∃ tree, ofTree tree = .ok q := by
  obtain ⟨tree, -, h⟩ := exists_of_bind h
  exact ⟨tree, mapError_eq_ok_iff.1 h⟩

/-- **Queries that are read are well-formed.** A query that was read from a tree or from a text
names a table, has no direction without an order, and has literals as the values of its filters. So
its filters can all be prepared, unless one has a pattern that is refused. A query that was read
from a text also has names that the grammar allows, and if it selects, it selects something. -/
theorem isWellFormed_of_read (q : Query) :
    ((∃ tree, ofTree tree = .ok q) ∨ (∃ text, ofText text = .ok q) →
      q.IsWellFormed ∧ ∀ e, Filter.conditions q.filters = .error e →
        ∃ f ∈ q.filters, ∃ source cause, f.value.matchText? = some source ∧
          Pattern.ofSource source = .error cause ∧ e = .invalidPattern source f.field cause) ∧
    ((∃ text, ofText text = .ok q) → q.HasNames) := by
  constructor
  · intro h
    have htree : ∃ tree, ofTree tree = .ok q := by
      rcases h with htree | ⟨text, htext⟩
      · exact htree
      · exact exists_ofTree_of_ofText htext
    obtain ⟨tree, htree⟩ := htree
    have hq := isWellFormed_of_ofTree htree
    exact ⟨hq, fun e => hq.exists_of_conditions_eq_error⟩
  · intro h
    obtain ⟨text, htext⟩ := h
    exact hasNames_of_ofText htext

/-- A host's tree with blanks in the name of its table and a clause keyword as a field. The values
in its list stand below a node of the host's own. -/
def hostedQuery : Tree :=
  ⟨{ tag := some "Directive" }, [⟨{ tag := some "Select" }, [
    ⟨{ tag := some Tree.Tag.tableName }, [.leaf "my tasks" 0 8]⟩,
    ⟨{ tag := some Tree.Tag.orderClause }, [⟨{ tag := some Tree.Tag.name }, [.leaf "order" 9 14]⟩,
      ⟨{ tag := some Tree.Tag.orderDirection }, [.leaf "desc" 15 19]⟩]⟩,
    ⟨{ tag := some Tree.Tag.filterExpr }, [
      ⟨{ tag := some Tree.Tag.name }, [.leaf "tags" 20 24]⟩, .leaf "in" 25 27,
      ⟨{ tag := some Tree.Tag.value }, [⟨{ tag := some Tree.Tag.list }, [⟨{ tag := some "Items" }, [
        ⟨{ tag := some Tree.Tag.value }, [⟨{ tag := some Tree.Tag.null }, []⟩]⟩,
        ⟨{ tag := some Tree.Tag.value }, [⟨{ tag := some Tree.Tag.list }, []⟩]⟩]⟩]⟩]⟩]⟩]⟩]⟩

/-- A host's tree, and a text with a list in the place of a pattern, which cannot be read as one. -/
theorem isWellFormed_of_read_hostedQuery :
    (∃ q, ofTree hostedQuery = .ok q ∧ q.table = "my tasks" ∧ q.descending = true ∧
      q.IsWellFormed) ∧
    ∃ q e,
      ofText "task where name =~ [/a(/, [1, null]] order by due desc select name, due" = .ok q ∧
      Filter.conditions q.filters = .error e ∧ q.IsWellFormed ∧ q.HasNames ∧
      ∃ f ∈ q.filters, ∃ source cause, f.value.matchText? = some source ∧
        Pattern.ofSource source = .error cause ∧ e = .invalidPattern source f.field cause := by
  have hhosted : (ofTree hostedQuery).toOption.any
      (fun q => q.table == "my tasks" && q.descending) = true := by
    decide +kernel
  have hrefused : (ofText
      "task where name =~ [/a(/, [1, null]] order by due desc select name, due").toOption.any
        (fun q => !(Filter.conditions q.filters).isOk) = true := by
    decide +kernel
  constructor
  · obtain ⟨q, hq, hparts⟩ := (Option.any_eq_true ..).1 hhosted
    rw [toOption_eq_some_iff] at hq
    rw [Bool.and_eq_true, beq_iff_eq] at hparts
    exact ⟨q, hq, hparts.1, hparts.2, ((isWellFormed_of_read q).1 (.inl ⟨_, hq⟩)).1⟩
  · obtain ⟨q, hq, hrefused⟩ := (Option.any_eq_true ..).1 hrefused
    rw [toOption_eq_some_iff] at hq
    obtain ⟨hread, hnames⟩ := isWellFormed_of_read q
    obtain ⟨hwellFormed, hpattern⟩ := hread (.inr ⟨_, hq⟩)
    cases he : Filter.conditions q.filters with
    | ok conditions =>
      rw [he] at hrefused
      cases hrefused
    | error e => exact ⟨q, e, hq, he, hwellFormed, hnames ⟨_, hq⟩, hpattern e he⟩

end Query

end NoteQuery
