import NoteQuery.Tree.Basic

/-!
# Rebuilding trees

Visits that need no state rebuild several trees one by one: what takes the place of one of them does
not depend on the others (`mapAll_cons`). Where one tree takes the place of each, the children of
the root are rebuilt in place (`mapAll_eq_map`).
-/

namespace NoteQuery.Tree

variable (visit : Tree → Replacement)

/-- Several trees rebuilt by visits that need no state. -/
def mapAll (ts : List Tree) : List Tree :=
  (rebuiltAll (fun node (_ : Unit) => (visit node, ())) ts ()).1

/-- What takes the place of a visited tree. -/
def inPlaceOf (t : Tree) : List Tree :=
  match visit t with
  | .keep label => [⟨label, mapAll visit t.children⟩]
  | .remove => []
  | .replace other => [other]

theorem children_mapBelow (t : Tree) : (t.mapBelow visit).children = mapAll visit t.children := rfl

theorem mapAll_cons (t : Tree) (ts : List Tree) :
    mapAll visit (t :: ts) = inPlaceOf visit t ++ mapAll visit ts := by
  obtain ⟨label, children⟩ := t
  rw [mapAll, rebuiltAll, rebuilt, inPlaceOf]
  cases visit ⟨label, children⟩ <;> rfl

theorem mapAll_append (ts us : List Tree) :
    mapAll visit (ts ++ us) = mapAll visit ts ++ mapAll visit us := by
  induction ts with
  | nil => rfl
  | cons t ts ih => rw [List.cons_append, mapAll_cons, mapAll_cons, ih, List.append_assoc]

variable {visit}

theorem mapAll_eq_map {image : Tree → Tree} (h : ∀ t, inPlaceOf visit t = [image t])
    (ts : List Tree) : mapAll visit ts = ts.map image := by
  induction ts with
  | nil => rfl
  | cons t ts ih => rw [mapAll_cons, h, ih, List.map_cons, List.singleton_append]

end NoteQuery.Tree
