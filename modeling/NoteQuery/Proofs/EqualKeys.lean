import NoteQuery.Proofs.TotalOrder

/-!
# Values with equal places in the sort order

`Value.totalCompare` finds two values equal exactly if they are the same value as soon as every page
reference in them is replaced by the string of its text (`totalCompare_eq_eq_iff`). Numbers count as
the same only if they have the same bits. With the laws of the order this makes it a total preorder
whose ties are known (`totalCompare_isTotalPreorder`).
-/

namespace NoteQuery

/-! ## Numbers -/

namespace Binary64

/-- The integers that order the numbers tell all of them apart, the two zeros and the NaNs too. -/
theorem totalKey_inj {x y : Binary64} : x.totalKey = y.totalKey ↔ x = y := by
  constructor
  · intro h
    obtain ⟨xnegative, xmagnitude, hx⟩ := x
    obtain ⟨ynegative, ymagnitude, hy⟩ := y
    have hnegative : xnegative = ynegative := by
      cases xnegative <;> cases ynegative <;> simp only [totalKey] at h ⊢ <;> grind
    subst hnegative
    have hmagnitude : xmagnitude = ymagnitude := by
      cases xnegative <;> simp only [totalKey] at h <;> grind
    subst hmagnitude
    rfl
  · rintro rfl
    rfl

theorem totalCompare_eq_eq_iff {x y : Binary64} : x.totalCompare y = .eq ↔ x = y := by
  rw [totalCompare, Std.LawfulEqOrd.compare_eq_iff_eq, totalKey_inj]

end Binary64

namespace Value

/-! ## Values without page references -/

mutual

/-- A value with every page reference in it replaced by the string of its text. -/
def unlinked : Value → Value
  | undefined => undefined
  | null => null
  | bool b => bool b
  | number x => number x
  | string s => string s
  | pageRef s => string s
  | list items => list (unlinkedItems items)
  | map entries => map (unlinkedEntries entries)

/-- Items with every page reference replaced. -/
def unlinkedItems : List Value → List Value
  | [] => []
  | item :: items => unlinked item :: unlinkedItems items

/-- Entries with every page reference replaced. -/
def unlinkedEntries : List (String × Value) → List (String × Value)
  | [] => []
  | (key, value) :: entries => (key, unlinked value) :: unlinkedEntries entries

end

theorem rank_unlinked (v : Value) : v.unlinked.rank = v.rank := by
  cases v <;> rfl

/-! ## Equal places -/

mutual

theorem totalCompare_eq_eq_iff (v w : Value) :
    v.totalCompare w = .eq ↔ v.unlinked = w.unlinked := by
  by_cases hkind : v.rank = w.rank
  · cases v with
    | undefined | null =>
      cases w <;> cases hkind
      exact iff_of_true rfl rfl
    | bool a =>
      cases w <;> cases hkind
      rw [unlinked, unlinked, bool.injEq]
      exact Std.LawfulEqOrd.compare_eq_iff_eq
    | number x =>
      cases w <;> cases hkind
      rw [unlinked, unlinked, number.injEq]
      exact Binary64.totalCompare_eq_eq_iff
    | string s | pageRef s =>
      -- strings and page references share a kind, and both are unlinked to strings
      cases w <;> cases hkind <;> rw [unlinked, unlinked, string.injEq] <;>
        exact Std.LawfulEqOrd.compare_eq_iff_eq
    | list xs =>
      cases w <;> cases hkind
      rw [unlinked, unlinked, list.injEq]
      exact totalCompareItems_eq_eq_iff xs _
    | map xs =>
      cases w <;> cases hkind
      rw [unlinked, unlinked, map.injEq]
      exact totalCompareEntries_eq_eq_iff xs _
  · have hcompare : v.totalCompare w ≠ .eq := by
      rw [totalCompare_of_rank_ne hkind]
      exact fun he => hkind (Nat.compare_eq_eq.1 he)
    have hunlinked : v.unlinked ≠ w.unlinked := by
      intro he
      exact hkind (by rw [← rank_unlinked v, ← rank_unlinked w, he])
    exact iff_of_false hcompare hunlinked

theorem totalCompareItems_eq_eq_iff :
    ∀ xs ys : List Value, totalCompareItems xs ys = .eq ↔ unlinkedItems xs = unlinkedItems ys
  | [], [] => iff_of_true rfl rfl
  | [], _ :: _ => iff_of_false nofun nofun
  | _ :: _, [] => iff_of_false nofun nofun
  | x :: xs, y :: ys => by
    rw [totalCompareItems, unlinkedItems, unlinkedItems, Ordering.then_eq_eq,
      totalCompare_eq_eq_iff x y, totalCompareItems_eq_eq_iff xs ys, List.cons.injEq]

theorem totalCompareEntries_eq_eq_iff :
    ∀ xs ys : List (String × Value),
      totalCompareEntries xs ys = .eq ↔ unlinkedEntries xs = unlinkedEntries ys
  | [], [] => iff_of_true rfl rfl
  | [], _ :: _ => iff_of_false nofun nofun
  | _ :: _, [] => iff_of_false nofun nofun
  | (k, x) :: xs, (l, y) :: ys => by
    rw [totalCompareEntries, unlinkedEntries, unlinkedEntries, Ordering.then_eq_eq,
      Ordering.then_eq_eq, Std.LawfulEqOrd.compare_eq_iff_eq, totalCompare_eq_eq_iff x y,
      totalCompareEntries_eq_eq_iff xs ys, List.cons.injEq, Prod.mk.injEq, and_assoc]

end

/-- The sort order is a total preorder, and two values tie exactly if they differ in nothing but in
page references standing for strings. -/
theorem totalCompare_isTotalPreorder (u v w : Value) :
    u.totalCompare v = (v.totalCompare u).swap ∧ u.totalCompare u = .eq ∧
      ((u.totalCompare v).isLE → (v.totalCompare w).isLE → (u.totalCompare w).isLE) ∧
      (u.totalCompare v = .eq ↔ u.unlinked = v.unlinked) := by
  refine ⟨totalCompare_swap u v, (totalCompare_eq_eq_iff u u).2 rfl, ?_, totalCompare_eq_eq_iff u v⟩
  intro huv hvw
  exact (totalCompare_agreement u v w).isLE_trans huv hvw

/-- A list with a NaN, a negative zero and a page reference in a map. -/
def linkedList : Value :=
  list [number (.nan true), map [("page", pageRef "Home")], number (.zero true)]

/-- The same list with a string in place of the page reference. -/
def unlinkedList : Value :=
  list [number (.nan true), map [("page", string "Home")], number (.zero true)]

/-- The same list with a positive zero. -/
def largerList : Value :=
  list [number (.nan true), map [("page", pageRef "Home")], number (.zero false)]

theorem totalCompare_isTotalPreorder_linkedList :
    linkedList.totalCompare unlinkedList = .eq ∧ (linkedList.totalCompare largerList).isLE ∧
      linkedList.totalCompare largerList ≠ .eq := by
  obtain ⟨-, -, hchain, hties⟩ := totalCompare_isTotalPreorder linkedList unlinkedList largerList
  have hsame : linkedList.totalCompare unlinkedList = .eq := hties.2 rfl
  have hbelow : (unlinkedList.totalCompare largerList).isLE := by decide +kernel
  exact ⟨hsame, hchain (by rw [hsame]; rfl) hbelow, by decide +kernel⟩

end Value

end NoteQuery
