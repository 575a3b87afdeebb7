import NoteQuery.Tree.Basic
import Mathlib.Data.List.Basic

/-!
# Searching trees

A walk over several trees is the walks over each of them, one after the other. So the first node
with a tag is found tree by tree, and it need not be looked for below trees that lack the tag.
-/

namespace NoteQuery.Tree

/-! ## Walks -/

theorem walk_cons (t : Tree) (ts : List Tree) : walk (t :: ts) = t :: walk (t.children ++ ts) := by
  rw [walk]

theorem walk_append (ts us : List Tree) : walk (ts ++ us) = walk ts ++ walk us := by
  fun_induction walk ts with
  | case1 => rfl
  | case2 t rest ih =>
    rw [List.cons_append, walk_cons, ← List.append_assoc, ih]
    rfl

/-! ## First nodes -/

variable {tag : String}

/-- The first node with a tag in several trees. -/
def firstIn? (tag : String) (ts : List Tree) : Option Tree := (walk ts).find? (hasTag tag)

theorem firstIn?_nil : firstIn? tag [] = none := by
  rw [firstIn?, walk]
  rfl

theorem firstIn?_append (ts us : List Tree) :
    firstIn? tag (ts ++ us) = (firstIn? tag ts).or (firstIn? tag us) := by
  rw [firstIn?, walk_append, List.find?_append]
  rfl

theorem firstIn?_cons_of_hasTag {t : Tree} (ht : t.hasTag tag = true) (ts : List Tree) :
    firstIn? tag (t :: ts) = some t := by
  rw [firstIn?, walk_cons, List.find?_cons_of_pos ht]

theorem firstIn?_cons_of_not_hasTag {t : Tree} (ht : t.hasTag tag = false) (ts : List Tree) :
    firstIn? tag (t :: ts) = (firstIn? tag t.children).or (firstIn? tag ts) := by
  rw [← firstIn?_append, firstIn?, walk_cons, List.find?_cons_of_neg (by simp [ht])]
  rfl

theorem find?_eq_firstIn? (t : Tree) : t.find? tag = firstIn? tag [t] := rfl

theorem firstIn?_cons_eq_none_iff {t : Tree} {ts : List Tree} :
    firstIn? tag (t :: ts) = none ↔
      t.hasTag tag = false ∧ firstIn? tag t.children = none ∧ firstIn? tag ts = none := by
  by_cases ht : t.hasTag tag = true
  · simp [firstIn?_cons_of_hasTag ht, ht]
  · have ht : t.hasTag tag = false := Bool.eq_false_iff.2 ht
    rw [firstIn?_cons_of_not_hasTag ht, Option.or_eq_none_iff]
    simp [ht]

/-! ## Outermost nodes -/

theorem outermostAll_append (ts us : List Tree) :
    outermostAll tag (ts ++ us) = outermostAll tag ts ++ outermostAll tag us := by
  induction ts with
  | nil => rfl
  | cons t ts ih => rw [List.cons_append, outermostAll, outermostAll, ih, List.append_assoc]

theorem outermost_of_hasTag {t : Tree} (ht : t.hasTag tag = true) : outermost tag t = [t] := by
  obtain ⟨label, children⟩ := t
  rw [outermost, if_pos ht]

theorem outermost_of_not_hasTag {t : Tree} (ht : t.hasTag tag = false) :
    outermost tag t = outermostAll tag t.children := by
  obtain ⟨label, children⟩ := t
  rw [outermost, if_neg (by simp [ht])]

mutual

/-- The first node with a tag is an outermost one. -/
theorem head?_outermost (t : Tree) : (outermost tag t).head? = firstIn? tag [t] := by
  match t with
  | ⟨label, children⟩ =>
    cases ht : hasTag tag ⟨label, children⟩
    · rw [outermost_of_not_hasTag ht, firstIn?_cons_of_not_hasTag ht, firstIn?_nil, Option.or_none]
      exact head?_outermostAll children
    · rw [outermost_of_hasTag ht, firstIn?_cons_of_hasTag ht]
      rfl

theorem head?_outermostAll (ts : List Tree) : (outermostAll tag ts).head? = firstIn? tag ts := by
  match ts with
  | [] => exact firstIn?_nil.symm
  | t :: ts =>
    rw [outermostAll, List.head?_append, head?_outermost t, head?_outermostAll ts,
      ← firstIn?_append, List.singleton_append]

end

/-- There are no outermost nodes where there is no node. -/
theorem outermostAll_eq_nil {ts : List Tree} (h : firstIn? tag ts = none) :
    outermostAll tag ts = [] :=
  List.head?_eq_none_iff.1 (by rw [head?_outermostAll, h])

end NoteQuery.Tree
