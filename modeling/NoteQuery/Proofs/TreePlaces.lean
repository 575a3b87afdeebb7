import NoteQuery.Tree.Basic
import Mathlib.Data.List.Basic

/-!
# Places in trees

A path leads from the root of a tree to one of its nodes, by the numbers of the children to go
through. So a node has a place even if the tree has another node that is equal to it. The outermost
nodes with a tag are those that a path leads to without meeting the tag before (`IsOutermostAt`). A
tree shows such a node if it is rendered, because no node above it has a text (`shows_iff`).
-/

namespace NoteQuery.Tree

/-! ## Paths -/

/-- The node that a path leads to. Each number of the path is that of a child. -/
def nodeAt? : List Nat → Tree → Option Tree
  | [], t => some t
  | i :: path, t => t.children[i]?.bind (nodeAt? path)

/-- The nodes below the root on a path, the one that it leads to included. -/
def way : List Nat → Tree → List Tree
  | [], _ => []
  | i :: path, t =>
    match t.children[i]? with
    | none => []
    | some child => child :: child.way path

/-- A path leads to no node with a tag and through none; the root does not count. -/
def Avoids (tag : String) (t : Tree) (path : List Nat) : Prop :=
  ∀ node ∈ t.way path, node.hasTag tag = false

/-- A node is an outermost one with a tag below the root: the child with a number of a node on whose
path there is none. -/
structure IsOutermostAt (tag : String) (t : Tree) (path : List Nat) (i : Nat) (node : Tree) :
    Prop where
  avoids : t.Avoids tag path
  nodeAt? : t.nodeAt? (path ++ [i]) = some node
  hasTag : node.hasTag tag = true

/-- The children of the node that a path leads to are rendered: neither the root nor any node on the
path has a text that stands for them. -/
def ShowsBelow (t : Tree) (path : List Nat) : Prop := ∀ node ∈ t :: t.way path, node.text = none

/-- Rendering a tree renders a node that is an outermost one with a tag below the root. -/
def Shows (tag : String) (t node : Tree) : Prop :=
  ∃ path i, t.IsOutermostAt tag path i node ∧ t.ShowsBelow path

variable {tag : String} {t child node : Tree} {i j : Nat} {path : List Nat}

theorem nodeAt?_concat (path : List Nat) (i : Nat) (t : Tree) :
    t.nodeAt? (path ++ [i]) = (t.nodeAt? path).bind (·.children[i]?) := by
  induction path generalizing t with
  | nil => simp [nodeAt?]
  | cons j path ih =>
    rw [List.cons_append, nodeAt?, nodeAt?]
    cases t.children[j]? with
    | none => rfl
    | some child => exact ih child

theorem nodeAt?_cons_of_child (hchild : t.children[i]? = some child) (path : List Nat) :
    t.nodeAt? (i :: path) = child.nodeAt? path := by
  rw [nodeAt?, hchild]
  rfl

theorem way_cons_of_child (hchild : t.children[i]? = some child) (path : List Nat) :
    t.way (i :: path) = child :: child.way path := by
  rw [way, hchild]

theorem avoids_cons_iff (hchild : t.children[i]? = some child) :
    t.Avoids tag (i :: path) ↔ child.hasTag tag = false ∧ child.Avoids tag path := by
  rw [Avoids, way_cons_of_child hchild, List.forall_mem_cons]
  rfl

theorem showsBelow_cons_iff (hchild : t.children[i]? = some child) :
    t.ShowsBelow (i :: path) ↔ t.text = none ∧ child.ShowsBelow path := by
  rw [ShowsBelow, way_cons_of_child hchild, List.forall_mem_cons]
  rfl

/-! ## Outermost nodes -/

theorem showsBelow_nil_iff : t.ShowsBelow [] ↔ t.text = none := List.forall_mem_singleton

theorem isOutermostAt_nil_iff :
    t.IsOutermostAt tag [] i node ↔ t.children[i]? = some node ∧ node.hasTag tag = true := by
  have hplace : t.nodeAt? [i] = t.children[i]? := nodeAt?_concat [] i t
  constructor
  · exact fun h => ⟨hplace ▸ h.nodeAt?, h.hasTag⟩
  · exact fun ⟨hnode, htag⟩ => ⟨nofun, hplace.trans hnode, htag⟩

theorem isOutermostAt_cons_iff (hchild : t.children[i]? = some child) :
    t.IsOutermostAt tag (i :: path) j node ↔
      child.hasTag tag = false ∧ child.IsOutermostAt tag path j node := by
  have hplace : t.nodeAt? (i :: path ++ [j]) = child.nodeAt? (path ++ [j]) :=
    nodeAt?_cons_of_child hchild (path ++ [j])
  constructor
  · intro h
    obtain ⟨htag, havoids⟩ := (avoids_cons_iff hchild).1 h.avoids
    exact ⟨htag, havoids, hplace ▸ h.nodeAt?, h.hasTag⟩
  · rintro ⟨htag, h⟩
    exact ⟨(avoids_cons_iff hchild).2 ⟨htag, h.avoids⟩, hplace.trans h.nodeAt?, h.hasTag⟩

/-- A node is rendered as an outermost one if it is a child, or below a child that is no such
node. -/
theorem shows_iff :
    t.Shows tag node ↔ t.text = none ∧
      ∃ child ∈ t.children, if child.hasTag tag then child = node else child.Shows tag node := by
  constructor
  · rintro ⟨path, i, hplace, hshows⟩
    refine ⟨hshows t List.mem_cons_self, ?_⟩
    cases path with
    | nil =>
      obtain ⟨hchild, htag⟩ := isOutermostAt_nil_iff.1 hplace
      exact ⟨node, List.mem_of_getElem? hchild, by rw [if_pos htag]⟩
    | cons j path =>
      -- the path leads to a node, so it has a first child to go through
      have hnode := hplace.nodeAt?
      rw [List.cons_append, nodeAt?] at hnode
      obtain ⟨child, hchild, -⟩ := Option.bind_eq_some_iff.1 hnode
      obtain ⟨htag, hplace⟩ := (isOutermostAt_cons_iff hchild).1 hplace
      refine ⟨child, List.mem_of_getElem? hchild, ?_⟩
      rw [if_neg (by simp [htag])]
      exact ⟨path, i, hplace, ((showsBelow_cons_iff hchild).1 hshows).2⟩
  · rintro ⟨htext, child, hmem, hchild⟩
    obtain ⟨i, hi⟩ := List.mem_iff_getElem?.1 hmem
    split at hchild
    · rename_i htag
      subst hchild
      exact ⟨[], i, isOutermostAt_nil_iff.2 ⟨hi, htag⟩, showsBelow_nil_iff.2 htext⟩
    · rename_i htag
      obtain ⟨path, j, hplace, hshows⟩ := hchild
      exact ⟨i :: path, j, (isOutermostAt_cons_iff hi).2 ⟨by simpa using htag, hplace⟩,
        (showsBelow_cons_iff hi).2 ⟨htext, hshows⟩⟩

end NoteQuery.Tree
