import NoteQuery.Proofs.TreeOrder
import NoteQuery.Proofs.TreeSearch

/-!
# What searching a tree finds

A walk keeps the trees that are still to be visited on a stack, with the next one on top. Visits
end, and they are the nodes of the tree in pre-order (`visits_iff`). The first node with a tag is
the first one in this order, and the outermost nodes are those at the topmost places with the tag:
those without a node with the tag above them, in the same order (`search_topmost`).
-/

namespace NoteQuery.Tree

variable {tag : String} {t node : Tree} {ts stack visited : List Tree} {path : List Nat}

/-! ## Visits -/

/-- One visit: the tree on top of the stack, which is its end, and the stack after it. The children
of the visited tree are put on the stack from the last one to the first. -/
def next? (stack : List Tree) : Option (Tree × List Tree) :=
  stack.getLast?.map (fun t => (t, stack.dropLast ++ t.children.reverse))

/-- The trees that are visited until the stack is empty. -/
inductive Visits : List Tree → List Tree → Prop
  | done {stack : List Tree} (h : next? stack = none) : Visits stack []
  | visit {stack rest : List Tree} {t : Tree} {ts : List Tree} (h : next? stack = some (t, rest))
    (hrest : Visits rest ts) : Visits stack (t :: ts)

/-- From its top down, a stack is an agenda. -/
theorem next?_reverse (t : Tree) (ts : List Tree) :
    next? (t :: ts).reverse = some (t, (t.children ++ ts).reverse) := by
  simp [next?]

theorem visits_walk (agenda : List Tree) : Visits agenda.reverse (walk agenda) := by
  fun_induction walk agenda with
  | case1 => exact .done rfl
  | case2 t rest ih => exact .visit (next?_reverse t rest) ih

theorem Visits.eq {others : List Tree} (h : Visits stack visited) (h' : Visits stack others) :
    visited = others := by
  induction h generalizing others with
  | done hnone =>
    cases h' with
    | done => rfl
    | visit hsome => exact absurd (hnone.symm.trans hsome) nofun
  | visit hsome hrest ih =>
    cases h' with
    | done hnone => exact absurd (hsome.symm.trans hnone) nofun
    | visit hsome' hrest' =>
      obtain ⟨rfl, rfl⟩ := Prod.mk.inj (Option.some.inj (hsome.symm.trans hsome'))
      rw [ih hrest']

theorem visits_iff (t : Tree) (visited : List Tree) : Visits [t] visited ↔ visited = t.nodes := by
  constructor
  · exact fun h => h.eq (visits_walk [t])
  · rintro rfl
    exact visits_walk [t]

theorem walk_eq_flatMap (ts : List Tree) : walk ts = ts.flatMap nodes := by
  induction ts with
  | nil =>
    rw [walk]
    rfl
  | cons t ts ih =>
    rw [← List.singleton_append, walk_append, ih, List.singleton_append, List.flatMap_cons, nodes]

theorem nodes_eq (t : Tree) : t.nodes = t :: t.children.flatMap nodes := by
  rw [nodes, walk_cons, List.append_nil, walk_eq_flatMap]

/-! ## Nodes in order -/

mutual

theorem isListing_nodes (t : Tree) :
    IsListing (fun path => t.nodeAt? path)
      (fun path => (t.nodeAt? path).isSome = true) t.nodes := by
  match t with
  | ⟨label, children⟩ =>
    rw [nodes, walk_cons, List.append_nil]
    exact (isListing_walk children).root_cons (fun i path => rfl) rfl nofun rfl
      (fun i path => Iff.rfl)

theorem isListing_walk (ts : List Tree) :
    IsListing (nodeIn? ts) (fun path => (nodeIn? ts path).isSome = true) (walk ts) := by
  match ts with
  | [] =>
    rw [walk]
    exact isListing_nil (fun path => by cases path <;> simp [nodeIn?])
  | t :: ts =>
    rw [← List.singleton_append, walk_append]
    exact (isListing_nodes t).append (isListing_walk ts) (fun path => rfl)
      (nodeIn?_behind t ts) nofun nofun (fun path => Iff.rfl) (fun i path => Iff.rfl)

end

/-! ## Topmost places -/

/-- A place with a property that no place above it has. -/
def IsTopmost (p : List Nat → Bool) (path : List Nat) : Prop :=
  p path = true ∧ AllAbove (fun above => p above = false) path

section

variable {p : List Nat → Bool} {i : Nat}

theorem isTopmost_nil_iff : IsTopmost p [] ↔ p [] = true := and_iff_left (allAbove_nil _)

theorem isTopmost_cons_iff :
    IsTopmost p (i :: path) ↔ p [] = false ∧ IsTopmost (fun path => p (i :: path)) path := by
  rw [IsTopmost, allAbove_cons_iff, and_left_comm]
  rfl

/-- On the way to a place with a property there is exactly one topmost place. -/
theorem existsUnique_isTopmost (h : p path = true) :
    ∃! above, above <+: path ∧ IsTopmost p above := by
  induction path generalizing p with
  | nil =>
    refine ⟨[], ⟨List.nil_prefix, isTopmost_nil_iff.2 h⟩, fun above habove => ?_⟩
    exact List.prefix_nil.1 habove.1
  | cons i path ih =>
    cases hnil : p []
    · obtain ⟨above, ⟨hpre, htopmost⟩, hunique⟩ := ih (p := fun path => p (i :: path)) h
      refine ⟨i :: above,
        ⟨List.cons_prefix_cons.2 ⟨rfl, hpre⟩, isTopmost_cons_iff.2 ⟨hnil, htopmost⟩⟩, ?_⟩
      rintro other ⟨hother, htop⟩
      cases other with
      | nil => exact absurd (hnil.symm.trans (isTopmost_nil_iff.1 htop)) nofun
      | cons j other =>
        obtain ⟨rfl, hrest⟩ := List.cons_prefix_cons.1 hother
        rw [hunique other ⟨hrest, (isTopmost_cons_iff.1 htop).2⟩]
    · refine ⟨[], ⟨List.nil_prefix, isTopmost_nil_iff.2 hnil⟩, ?_⟩
      rintro other ⟨-, htop⟩
      cases other with
      | nil => rfl
      | cons j other => exact absurd (hnil.symm.trans (isTopmost_cons_iff.1 htop).1) nofun

end

/-- Whether a path leads to a node with a tag. -/
def hasTagAt (tag : String) (t : Tree) (path : List Nat) : Bool := (t.nodeAt? path).any (hasTag tag)

/-- Whether a path leads to a node with a tag in several trees. -/
def hasTagIn (tag : String) (ts : List Tree) (path : List Nat) : Bool :=
  (nodeIn? ts path).any (hasTag tag)

/-- Under a root without the tag, the places are those in the trees below it. -/
theorem hasTagAt_eq_hasTagIn (ht : t.hasTag tag = false) :
    t.hasTagAt tag = hasTagIn tag t.children := by
  funext path
  cases path with
  | nil => exact ht
  | cons i path => rfl

theorem not_isTopmost_hasTagIn_nil (ts : List Tree) : ¬ IsTopmost (hasTagIn tag ts) [] :=
  fun h => absurd h.1 nofun

/-- In several trees, a place is topmost if it is so in its tree. -/
theorem isTopmost_hasTagIn_cons_iff {i : Nat} :
    IsTopmost (hasTagIn tag ts) (i :: path) ↔
      IsTopmost (fun path => (ts[i]?.bind (Tree.nodeAt? path)).any (hasTag tag)) path := by
  rw [isTopmost_cons_iff]
  exact and_iff_right rfl

mutual

theorem isListing_outermost (t : Tree) :
    IsListing (fun path => t.nodeAt? path) (IsTopmost (t.hasTagAt tag)) (outermost tag t) := by
  match t with
  | ⟨label, children⟩ =>
    cases ht : hasTag tag ⟨label, children⟩
    · rw [outermost_of_not_hasTag ht, hasTagAt_eq_hasTagIn ht]
      exact (isListing_outermostAll children).below (fun i path => rfl)
        (not_isTopmost_hasTagIn_nil children)
    · -- everything else is below the root
      have hnone : IsListing (nodeIn? children) (fun _ => False) [] :=
        isListing_nil (fun _ => not_false)
      rw [outermost_of_hasTag ht]
      refine hnone.root_cons (fun i path => rfl) rfl not_false (isTopmost_nil_iff.2 ht)
        (fun i path => ?_)
      exact iff_of_false
        (fun h => absurd (ht.symm.trans (isTopmost_cons_iff.1 h).1) nofun) not_false

theorem isListing_outermostAll (ts : List Tree) :
    IsListing (nodeIn? ts) (IsTopmost (hasTagIn tag ts)) (outermostAll tag ts) := by
  match ts with
  | [] =>
    rw [outermostAll]
    refine isListing_nil fun path h => ?_
    cases path <;> exact absurd h.1 nofun
  | t :: ts =>
    rw [outermostAll]
    refine (isListing_outermost t).append (isListing_outermostAll ts) (fun path => rfl)
      (nodeIn?_behind t ts)
      (not_isTopmost_hasTagIn_nil ts) (not_isTopmost_hasTagIn_nil (t :: ts))
      (fun path => isTopmost_hasTagIn_cons_iff) (fun i path => ?_)
    rw [isTopmost_hasTagIn_cons_iff, isTopmost_hasTagIn_cons_iff]
    rfl

end

/-! ## Searches -/

theorem find?_eq_some_iff : t.find? tag = some node ↔
    ∃ path, t.nodeAt? path = some node ∧ node.hasTag tag = true ∧
      ∀ earlier, earlier < path → t.hasTagAt tag earlier = false := by
  rw [find?, (isListing_nodes t).find?_eq_some_iff]
  constructor
  · rintro ⟨path, -, hnode, htag, hfirst⟩
    refine ⟨path, hnode, htag, fun earlier hlt => ?_⟩
    cases hearlier : t.nodeAt? earlier with
    | none => rw [hasTagAt, hearlier, Option.any_none]
    | some other => exact hfirst earlier (by rw [hearlier]; rfl) hlt
  · rintro ⟨path, hnode, htag, hfirst⟩
    exact ⟨path, by rw [hnode]; rfl, hnode, htag, fun earlier _ hlt => hfirst earlier hlt⟩

theorem find?_eq_none_iff : t.find? tag = none ↔ ∀ path, t.hasTagAt tag path = false := by
  rw [find?, List.find?_eq_none]
  constructor
  · intro h path
    cases hnode : t.nodeAt? path with
    | none => rw [hasTagAt, hnode, Option.any_none]
    | some node =>
      have hmem : node ∈ t.nodes := (isListing_nodes t).mem_iff.2 ⟨path, by rw [hnode]; rfl, hnode⟩
      rw [hasTagAt, hnode, Option.any_some]
      simpa using h node hmem
  · intro h node hmem htag
    obtain ⟨path, -, hnode⟩ := (isListing_nodes t).mem_iff.1 hmem
    have hnot := h path
    rw [hasTagAt, hnode, Option.any_some, htag] at hnot
    cases hnot

/-- Searching a tree. Visits end, and each place of the tree is visited once, in pre-order, so that
the first node with a tag is the one at the first place with it. The outermost nodes are those at
the topmost places in the same order: on the way to any node with the tag there is exactly one of
them, and the first one is the first node with the tag. -/
theorem search_topmost (tag : String) (t : Tree) :
    (∀ visited, Visits [t] visited ↔ visited = t.nodes) ∧
    t.nodes = t :: t.children.flatMap nodes ∧
    IsListing (fun path => t.nodeAt? path) (fun path => (t.nodeAt? path).isSome = true) t.nodes ∧
    (∀ node, t.find? tag = some node ↔ ∃ path, t.nodeAt? path = some node ∧ node.hasTag tag = true ∧
      ∀ earlier, earlier < path → t.hasTagAt tag earlier = false) ∧
    (t.find? tag = none ↔ ∀ path, t.hasTagAt tag path = false) ∧
    IsListing (fun path => t.nodeAt? path) (IsTopmost (t.hasTagAt tag)) (t.outermost tag) ∧
    (∀ path, t.hasTagAt tag path = true →
      ∃! above, above <+: path ∧ IsTopmost (t.hasTagAt tag) above) ∧
    t.find? tag = (t.outermost tag).head? := by
  refine ⟨visits_iff t, nodes_eq t, isListing_nodes t, fun node => find?_eq_some_iff,
    find?_eq_none_iff, isListing_outermost t, fun path => existsUnique_isTopmost, ?_⟩
  rw [head?_outermost, find?_eq_firstIn?]

/-- A box in a box: on the way to the inner one, the outer one is topmost. -/
theorem search_topmost_nested :
    let box (children : List Tree) : Tree := ⟨{ tag := some "Box" }, children⟩
    let t : Tree := ⟨{ tag := some "Doc" }, [leaf "x" 0 1, box [box [leaf "y" 1 2]], box []]⟩
    t.hasTagAt "Box" [1, 0] = true ∧
      ∃! above, above <+: [1, 0] ∧ IsTopmost (t.hasTagAt "Box") above := by
  intro box t
  have hbox : t.hasTagAt "Box" [1, 0] = true := by decide
  obtain ⟨-, -, -, -, -, -, htopmost, -⟩ := search_topmost "Box" t
  exact ⟨hbox, htopmost [1, 0] hbox⟩

end NoteQuery.Tree
