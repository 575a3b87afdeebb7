import NoteQuery.Proofs.HostTrees

/-!
# What normalization loses

Normalization takes a node without tag away if it has no text but white space, and with the node
goes everything below it. So it loses more than white space where such a node has children: a filter
that a host has grouped with others under a node without tag does not reach the query. What is kept
is kept in order, and nothing is lost exactly if nothing stands below the nodes that are taken away
(`normalize_keeps_iff`), as in trees in which nodes without tag are leaves.
-/

namespace NoteQuery

open Unicode

/-! ## Texts without white space -/

/-- The characters of a text that are no white space. -/
def inkOf (cs : List Char) : List Char := cs.filter (fun c => !isBlank c)

theorem inkOf_append (cs others : List Char) : inkOf (cs ++ others) = inkOf cs ++ inkOf others :=
  List.filter_append cs others

theorem inkOf_eq_nil_iff {cs : List Char} : inkOf cs = [] ↔ ∀ c ∈ cs, isBlank c = true := by
  simp [inkOf]

theorem inkOf_dropWhile_isBlank (cs : List Char) : inkOf (cs.dropWhile isBlank) = inkOf cs := by
  have hfront : inkOf (cs.takeWhile isBlank) = [] :=
    inkOf_eq_nil_iff.2 (fun c hc => List.mem_takeWhile_imp hc)
  calc inkOf (cs.dropWhile isBlank)
    _ = inkOf (cs.takeWhile isBlank) ++ inkOf (cs.dropWhile isBlank) := by
      rw [hfront, List.nil_append]
    _ = inkOf cs := by rw [← inkOf_append, List.takeWhile_append_dropWhile]

theorem inkOf_reverse (cs : List Char) : inkOf cs.reverse = (inkOf cs).reverse :=
  List.filter_reverse

theorem inkOf_trim (cs : List Char) : inkOf (trim cs) = inkOf cs := by
  rw [trim, inkOf_reverse, inkOf_dropWhile_isBlank, inkOf_reverse, inkOf_dropWhile_isBlank,
    List.reverse_reverse]

namespace Tree

/-! ## Nodes that are taken away -/

/-- A node without tag and without text, white space apart. -/
def IsDropped (t : Tree) : Prop :=
  t.tag = none ∧ ∀ text ∈ t.text, ∀ c ∈ text.toList, isBlank c = true

theorem normalizeNode_eq_remove_iff (t : Tree) : normalizeNode t = .remove ↔ t.IsDropped := by
  unfold normalizeNode IsDropped
  split
  · rename_i htag
    exact iff_of_false nofun (fun h => nomatch htag.symm.trans h.1)
  · rename_i htag htext
    exact iff_of_true rfl ⟨htag, fun text hmem => nomatch htext.symm.trans hmem⟩
  · rename_i text htag htext
    have hblank : trim text.toList = [] ↔ ∀ c ∈ text.toList, isBlank c = true := by
      refine ⟨fun hnil => ?_, trim_eq_nil⟩
      rw [← inkOf_eq_nil_iff, ← inkOf_trim, hnil]
      rfl
    dsimp only
    split
    · rename_i hempty
      refine iff_of_true rfl ⟨htag, fun other hother => ?_⟩
      obtain rfl := Option.some.inj (htext.symm.trans hother)
      exact hblank.1 (List.isEmpty_iff.1 hempty)
    · rename_i hempty
      refine iff_of_false nofun (fun h => hempty (List.isEmpty_iff.2 (hblank.2 ?_)))
      exact h.2 text htext

/-- The characters of a node's own text that are no white space. -/
def ownInk (t : Tree) : Option (List Char) := t.text.map (fun text => inkOf text.toList)

/-- A node that stays keeps its tag, and its text up to white space. -/
theorem normalizeNode_eq_keep {t : Tree} {label : Label} (h : normalizeNode t = .keep label)
    (children : List Tree) :
    tag ⟨label, children⟩ = t.tag ∧ ownInk ⟨label, children⟩ = t.ownInk := by
  unfold normalizeNode at h
  split at h
  · cases h
    exact ⟨rfl, rfl⟩
  · cases h
  · rename_i text htag htext
    dsimp only at h
    split at h
    · cases h
    · cases h
      refine ⟨rfl, ?_⟩
      show some (inkOf (String.ofList (trim text.toList)).toList) = t.ownInk
      rw [String.toList_ofList, inkOf_trim, ownInk, htext, Option.map_some]

/-! ## What trees say, node by node -/

section

variable (enters : Tree → Bool)

mutual

/-- The nodes of a tree that are reached from its root if only some nodes are entered. -/
def reached : Tree → List Tree
  | ⟨label, children⟩ =>
    ⟨label, children⟩ :: if enters ⟨label, children⟩ then reachedAll children else []

/-- The nodes of several trees that are reached. -/
def reachedAll : List Tree → List Tree
  | [] => []
  | t :: ts => reached t ++ reachedAll ts

end

theorem reachedAll_append (ts us : List Tree) :
    reachedAll enters (ts ++ us) = reachedAll enters ts ++ reachedAll enters us := by
  induction ts with
  | nil => rfl
  | cons t ts ih => rw [List.cons_append, reachedAll, reachedAll, ih, List.append_assoc]

theorem reachedAll_singleton (t : Tree) :
    reachedAll enters [t] = t :: if enters t then reachedAll enters t.children else [] := by
  obtain ⟨label, children⟩ := t
  rw [reachedAll, reachedAll, reached, List.append_nil]

mutual

/-- What is reached from a node that is reached is reached. -/
theorem mem_reached_trans {t node other : Tree} (hnode : node ∈ reached enters t)
    (hother : other ∈ reachedAll enters [node]) : other ∈ reached enters t := by
  match t with
  | ⟨label, children⟩ =>
    rw [reached] at hnode ⊢
    rcases List.mem_cons.1 hnode with rfl | hmem
    · rwa [reachedAll_singleton] at hother
    · refine List.mem_cons_of_mem _ ?_
      split at hmem
      · rw [if_pos (by assumption)]
        exact mem_reachedAll_trans hmem hother
      · exact absurd hmem List.not_mem_nil

theorem mem_reachedAll_trans {ts : List Tree} {node other : Tree}
    (hnode : node ∈ reachedAll enters ts) (hother : other ∈ reachedAll enters [node]) :
    other ∈ reachedAll enters ts := by
  match ts with
  | [] => exact absurd hnode List.not_mem_nil
  | t :: ts =>
    rw [reachedAll] at hnode ⊢
    rcases List.mem_append.1 hnode with hmem | hmem
    · exact List.mem_append_left _ (mem_reached_trans hmem hother)
    · exact List.mem_append_right _ (mem_reachedAll_trans hmem hother)

end

variable {α : Type} (own : Tree → List α)

/-- What trees say, if each node that is reached says something. -/
def said (ts : List Tree) : List α := (reachedAll enters ts).flatMap own

theorem said_append (ts us : List Tree) :
    said enters own (ts ++ us) = said enters own ts ++ said enters own us := by
  rw [said, reachedAll_append, List.flatMap_append]
  rfl

theorem said_singleton (t : Tree) :
    said enters own [t] = own t ++ if enters t then said enters own t.children else [] := by
  rw [said, reachedAll_singleton, List.flatMap_cons]
  split <;> rfl

/-- Where nothing is said, no node that is reached says anything. -/
theorem said_eq_nil_of_mem {t node : Tree} (h : said enters own [t] = [])
    (hnode : node ∈ reachedAll enters [t]) : said enters own [node] = [] := by
  rw [said, List.flatMap_eq_nil_iff] at h ⊢
  exact fun other hother => h other (mem_reachedAll_trans enters hnode hother)

end

/-! ## What is left of it -/

section

variable {enters : Tree → Bool} {α : Type} {own : Tree → List α}

/-- Nodes that stay are entered as before and say the same. -/
structure IsKept (enters : Tree → Bool) (own : Tree → List α) : Prop where
  enters_eq : ∀ {t label}, normalizeNode t = .keep label → ∀ children,
    enters ⟨label, children⟩ = enters t
  own_eq : ∀ {t label}, normalizeNode t = .keep label → ∀ children, own ⟨label, children⟩ = own t

/-- What is left of a node that stays. -/
theorem IsKept.said_normalizedAll (hkept : IsKept enters own) {t : Tree} {label : Label}
    (h : normalizeNode t = .keep label) :
    said enters own (normalizedAll [t]) =
      own t ++ if enters t then said enters own (normalizedAll t.children) else [] := by
  rw [normalizedAll_cons, h]
  show said enters own [⟨label, normalizedAll t.children⟩] = _
  rw [said_singleton, hkept.own_eq h, hkept.enters_eq h]

theorem normalizedAll_singleton_of_isDropped {t : Tree} (h : t.IsDropped) :
    normalizedAll [t] = [] := by
  rw [normalizedAll_cons, (normalizeNode_eq_remove_iff t).2 h]
  rfl

/-- A node is taken away, or it stays. -/
theorem isDropped_or_keep (t : Tree) : t.IsDropped ∨ ∃ label, normalizeNode t = .keep label := by
  rcases normalizeNode_cases t with hremove | ⟨label, hkeep, -⟩
  · exact .inl ((normalizeNode_eq_remove_iff t).1 hremove)
  · exact .inr ⟨label, hkeep⟩

mutual

theorem IsKept.sublist_singleton (hkept : IsKept enters own) (t : Tree) :
    (said enters own (normalizedAll [t])).Sublist (said enters own [t]) := by
  match t with
  | ⟨label, children⟩ =>
    rcases isDropped_or_keep ⟨label, children⟩ with hdropped | ⟨label', hkeep⟩
    · rw [normalizedAll_singleton_of_isDropped hdropped]
      exact List.nil_sublist _
    · rw [hkept.said_normalizedAll hkeep, said_singleton]
      refine (List.Sublist.refl _).append ?_
      split
      · exact hkept.sublist children
      · exact List.nil_sublist _

/-- Nothing is said anew, and what is left is in order. -/
theorem IsKept.sublist (hkept : IsKept enters own) (ts : List Tree) :
    (said enters own (normalizedAll ts)).Sublist (said enters own ts) := by
  match ts with
  | [] => exact List.nil_sublist _
  | t :: ts =>
    rw [← List.singleton_append, normalizedAll_append, said_append, said_append]
    exact (hkept.sublist_singleton t).append (hkept.sublist ts)

end

/-- Two parts of which nothing is added lose nothing together only if neither of them does. -/
theorem append_eq_append_iff_of_sublist {as as' bs bs' : List α} (has : as'.Sublist as)
    (hbs : bs'.Sublist bs) : as' ++ bs' = as ++ bs ↔ as' = as ∧ bs' = bs := by
  constructor
  · intro h
    have hlength := congrArg List.length h
    rw [List.length_append, List.length_append] at hlength
    have hasle := has.length_le
    have hbsle := hbs.length_le
    exact ⟨has.eq_of_length (by omega), hbs.eq_of_length (by omega)⟩
  · rintro ⟨rfl, rfl⟩
    rfl

mutual

theorem IsKept.eq_singleton_iff (hkept : IsKept enters own) (t : Tree) :
    said enters own (normalizedAll [t]) = said enters own [t] ↔
      ∀ node ∈ reachedAll enters [t], node.IsDropped → said enters own [node] = [] := by
  match t with
  | ⟨label, children⟩ =>
    rcases isDropped_or_keep ⟨label, children⟩ with hdropped | ⟨label', hkeep⟩
    · rw [normalizedAll_singleton_of_isDropped hdropped]
      constructor
      · intro hnil node hnode _
        exact said_eq_nil_of_mem enters own hnil.symm hnode
      · intro h
        have hself : (⟨label, children⟩ : Tree) ∈ reachedAll enters [⟨label, children⟩] := by
          rw [reachedAll_singleton]
          exact List.mem_cons_self
        exact (h _ hself hdropped).symm
    · have hstays : ¬ IsDropped ⟨label, children⟩ := by
        rw [← normalizeNode_eq_remove_iff, hkeep]
        nofun
      rw [hkept.said_normalizedAll hkeep, said_singleton, List.append_cancel_left_eq,
        reachedAll_singleton, List.forall_mem_cons]
      split
      · rw [hkept.eq_iff children]
        exact ⟨fun h => ⟨fun hdropped => absurd hdropped hstays, h⟩, fun h => h.2⟩
      · exact iff_of_true rfl ⟨fun hdropped => absurd hdropped hstays, nofun⟩

/-- Nothing is lost exactly if the nodes that are taken away say nothing. -/
theorem IsKept.eq_iff (hkept : IsKept enters own) (ts : List Tree) :
    said enters own (normalizedAll ts) = said enters own ts ↔
      ∀ node ∈ reachedAll enters ts, node.IsDropped → said enters own [node] = [] := by
  match ts with
  | [] => exact iff_of_true rfl nofun
  | t :: ts =>
    rw [← List.singleton_append, normalizedAll_append, said_append, said_append, reachedAll_append,
      append_eq_append_iff_of_sublist (hkept.sublist_singleton t) (hkept.sublist ts),
      hkept.eq_singleton_iff t, hkept.eq_iff ts, List.forall_mem_append]

end

end

/-! ## Tags and texts -/

/-- A walk enters every node. -/
theorem walk_eq_reachedAll (ts : List Tree) : walk ts = reachedAll (fun _ => true) ts := by
  fun_induction walk ts with
  | case1 => rfl
  | case2 t rest ih =>
    have hcons : t :: rest = [t] ++ rest := rfl
    rw [ih, hcons, reachedAll_append, reachedAll_append, reachedAll_singleton, if_pos rfl,
      List.cons_append]

/-- The tags below the root, in the order of visits. -/
def tagsBelow (t : Tree) : List String := (walk t.children).filterMap Tree.tag

/-- The characters that a tree renders to, without white space. -/
def ink (t : Tree) : List Char := inkOf t.render.toList

/-- Whether rendering goes below a node. -/
def showsChildren (t : Tree) : Bool := t.text.isNone

/-- The nodes below the root that rendering comes to. -/
def shownBelow (t : Tree) : List Tree :=
  if t.showsChildren then reachedAll showsChildren t.children else []

theorem tagsBelow_eq (t : Tree) :
    t.tagsBelow = said (fun _ => true) (fun node => node.tag.toList) t.children := by
  rw [tagsBelow, walk_eq_reachedAll, said, List.filterMap_eq_flatMap_toList]

mutual

theorem ink_eq_said (t : Tree) :
    t.ink = said showsChildren (fun node => node.ownInk.getD []) [t] := by
  match t with
  | ⟨label, children⟩ =>
    rw [said_singleton]
    cases htext : label.text with
    | some text =>
      have hrender : render ⟨label, children⟩ = text := render_of_text htext
      have hown : ownInk ⟨label, children⟩ = some (inkOf text.toList) := congrArg _ htext
      have hshows : showsChildren ⟨label, children⟩ = false := congrArg Option.isNone htext
      rw [ink, hrender, hown, hshows, if_neg Bool.false_ne_true, List.append_nil, Option.getD_some]
    | none =>
      have hrender : render ⟨label, children⟩ = renderAll children := render_of_not_text htext
      have hown : ownInk ⟨label, children⟩ = none := congrArg _ htext
      have hshows : showsChildren ⟨label, children⟩ = true := congrArg Option.isNone htext
      rw [ink, hrender, hown, if_pos hshows, Option.getD_none, List.nil_append]
      exact inkOf_renderAll children

theorem inkOf_renderAll (ts : List Tree) :
    inkOf (renderAll ts).toList = said showsChildren (fun node => node.ownInk.getD []) ts := by
  match ts with
  | [] => rfl
  | t :: ts =>
    rw [renderAll, String.toList_append, inkOf_append, ← List.singleton_append, said_append,
      ← ink_eq_said t, ← inkOf_renderAll ts]
    rfl

end

theorem isKept_tags : IsKept (fun _ => true) (fun node => node.tag.toList) where
  enters_eq _ _ := rfl
  own_eq h children := congrArg Option.toList (normalizeNode_eq_keep h children).1

theorem isKept_ink : IsKept showsChildren (fun node => node.ownInk.getD []) where
  enters_eq h children := by
    have hink := congrArg Option.isNone (normalizeNode_eq_keep h children).2
    rwa [ownInk, ownInk, Option.isNone_map, Option.isNone_map] at hink
  own_eq h children := congrArg (·.getD []) (normalizeNode_eq_keep h children).2

/-- A node that is taken away has no tag of its own. -/
theorem tagsBelow_of_isDropped {t : Tree} (h : t.IsDropped) :
    t.tagsBelow = said (fun _ => true) (fun node => node.tag.toList) [t] := by
  rw [said_singleton, h.1, if_pos rfl, tagsBelow_eq]
  rfl

theorem tagsBelow_normalize_eq_iff (t : Tree) :
    t.normalize.tagsBelow = t.tagsBelow ↔
      ∀ node ∈ walk t.children, node.IsDropped → node.tagsBelow = [] := by
  rw [tagsBelow_eq, tagsBelow_eq, children_normalize, isKept_tags.eq_iff, ← walk_eq_reachedAll]
  refine forall₂_congr (fun node _ => forall_congr' (fun hdropped => ?_))
  rw [tagsBelow_of_isDropped hdropped]

theorem ink_normalize_eq_iff (t : Tree) :
    t.normalize.ink = t.ink ↔ ∀ node ∈ t.shownBelow, node.IsDropped → node.ink = [] := by
  have hown : t.normalize.ownInk = t.ownInk := rfl
  have hshows : t.normalize.showsChildren = t.showsChildren := rfl
  rw [ink_eq_said, ink_eq_said, said_singleton, said_singleton, hown, hshows, shownBelow,
    children_normalize, List.append_cancel_left_eq]
  simp only [ink_eq_said]
  split
  · exact isKept_ink.eq_iff t.children
  · exact iff_of_true rfl nofun

/-! ## Trees in which nothing is lost -/

mutual

theorem mem_reached_of_mem {enters : Tree → Bool} {t node : Tree} (h : node ∈ reached enters t) :
    node ∈ reached (fun _ => true) t := by
  match t with
  | ⟨label, children⟩ =>
    rw [reached] at h ⊢
    rcases List.mem_cons.1 h with rfl | hmem
    · exact List.mem_cons_self
    · refine List.mem_cons_of_mem _ ?_
      split at hmem
      · exact mem_reachedAll_of_mem hmem
      · exact absurd hmem List.not_mem_nil

/-- Whatever is reached is reached if every node is entered. -/
theorem mem_reachedAll_of_mem {enters : Tree → Bool} {ts : List Tree} {node : Tree}
    (h : node ∈ reachedAll enters ts) : node ∈ reachedAll (fun _ => true) ts := by
  match ts with
  | [] => exact h
  | t :: ts =>
    rw [reachedAll] at h ⊢
    exact (List.mem_append.1 h).elim (fun hmem => List.mem_append_left _ (mem_reached_of_mem hmem))
      (fun hmem => List.mem_append_right _ (mem_reachedAll_of_mem hmem))

end

theorem mem_walk_of_mem_shownBelow {t node : Tree} (h : node ∈ t.shownBelow) :
    node ∈ walk t.children := by
  rw [walk_eq_reachedAll]
  rw [shownBelow] at h
  split at h
  · exact mem_reachedAll_of_mem h
  · exact absurd h List.not_mem_nil

/-- A leaf that is taken away holds neither tags nor text, white space apart. -/
theorem IsDropped.of_leaf {t : Tree} (h : t.IsDropped) (hleaf : t.children = []) :
    t.tagsBelow = [] ∧ t.ink = [] := by
  obtain ⟨label, children⟩ := t
  obtain rfl : children = [] := hleaf
  refine ⟨by rw [tagsBelow_eq]; rfl, ?_⟩
  rw [ink, render]
  cases htext : label.text with
  | none => rfl
  | some text => exact inkOf_eq_nil_iff.2 (h.2 text htext)

/-- Normalization keeps the tags below the root exactly if no node with a tag stands below a node
that is taken away, and the text up to white space exactly if nothing shows below such a node. So it
loses nothing where nodes without tag are leaves. -/
theorem normalize_keeps_iff (t : Tree) :
    (t.normalize.tagsBelow = t.tagsBelow ↔
        ∀ node ∈ walk t.children, node.IsDropped → node.tagsBelow = []) ∧
      (t.normalize.ink = t.ink ↔ ∀ node ∈ t.shownBelow, node.IsDropped → node.ink = []) ∧
      ((∀ node ∈ walk t.children, node.tag = none → node.children = []) →
        t.normalize.tagsBelow = t.tagsBelow ∧ t.normalize.ink = t.ink) := by
  refine ⟨tagsBelow_normalize_eq_iff t, ink_normalize_eq_iff t, fun hleaves => ⟨?_, ?_⟩⟩
  · refine (tagsBelow_normalize_eq_iff t).2 (fun node hnode hdropped => ?_)
    exact (hdropped.of_leaf (hleaves node hnode hdropped.1)).1
  · refine (ink_normalize_eq_iff t).2 (fun node hnode hdropped => ?_)
    exact (hdropped.of_leaf (hleaves node (mem_walk_of_mem_shownBelow hnode) hdropped.1)).2

theorem normalize_keeps_iff_paddedQuery :
    (∀ node ∈ walk paddedQuery.children, node.tag = none → node.children = []) ∧
      paddedQuery.normalize.tagsBelow = paddedQuery.tagsBelow ∧
      paddedQuery.normalize.ink = paddedQuery.ink := by
  have hleaves : ∀ node ∈ walk paddedQuery.children, node.tag = none → node.children = [] := by
    decide +kernel
  exact ⟨hleaves, (normalize_keeps_iff paddedQuery).2.2 hleaves⟩

/-- A host's tree of a query whose filter stands below a node without tag. -/
def groupedQuery : Tree :=
  ⟨{ tag := some Tag.program }, [⟨{ tag := some Tag.query }, [
    ⟨{ tag := some Tag.tableName }, [.leaf "page" 0 4]⟩,
    ⟨{}, [⟨{ tag := some Tag.filterExpr }, [
      ⟨{ tag := some Tag.name }, [.leaf "done" 5 9]⟩, .leaf "=" 10 11,
      ⟨{ tag := some Tag.value }, [⟨{ tag := some Tag.bool }, [.leaf "true" 12 16]⟩]⟩]⟩]⟩]⟩]⟩

/-- Normalization loses the filter and its text, and the query of the tree has no filter. -/
theorem not_normalize_keeps_groupedQuery :
    Tag.filterExpr ∈ groupedQuery.tagsBelow ∧ Tag.filterExpr ∉ groupedQuery.normalize.tagsBelow ∧
      groupedQuery.normalize.ink ≠ groupedQuery.ink ∧
      (Query.ofTree groupedQuery).toOption.map (fun q => q.filters.length) = some 0 := by
  decide +kernel

end Tree

end NoteQuery
