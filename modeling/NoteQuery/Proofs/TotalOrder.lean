import NoteQuery.Value.Comparison
import Mathlib.Data.Nat.Basic

/-!
# The sort order of values is a total preorder

`Value.totalCompare` first ranks the kinds of two values and then compares their content. This file
shows that it is oriented and transitive, for values nested to any depth:

* `Agreement`: what transitivity asks of the three comparisons of three values, in a form that
  passes through `Ordering.then`, so that it can be proved along lists and entries;
* `totalCompare_swap` and `totalCompare_agreement`, by induction on the first value;
* the instance `Std.TransCmp Value.totalCompare`, which gives access to the general laws.
-/

namespace NoteQuery

/-! ## Agreement of three comparisons -/

/-- What transitivity asks of the comparisons of `a` with `b`, of `b` with `c` and of `a` with `c`:
equal values can stand for each other, and two comparisons with one outcome can be chained. -/
structure Agreement (ab bc ac : Ordering) : Prop where
  of_eq_left : ab = .eq → ac = bc
  of_eq_right : bc = .eq → ac = ab
  of_same : ab = bc → ac = ab

namespace Agreement

theorem eq_left (bc : Ordering) : Agreement .eq bc bc := ⟨fun _ => rfl, fun h => h, fun h => h.symm⟩

/-- A strict first comparison settles the third one, unless the second is opposite to it. -/
theorem strict_left (ab bc : Ordering) (h : ab ≠ .eq) : Agreement ab bc ab :=
  ⟨fun he => absurd he h, fun _ => rfl, fun _ => rfl⟩

theorem strict_right (ab bc : Ordering) (h : bc ≠ .eq) : Agreement ab bc bc :=
  ⟨fun _ => rfl, fun he => absurd he h, fun he => he.symm⟩

/-- Nothing is asked of the third comparison when the other two are opposite. -/
theorem opposite (ab ac : Ordering) (h : ab ≠ .eq) : Agreement ab ab.swap ac := by
  cases ab
  case eq => exact absurd rfl h
  all_goals exact ⟨nofun, nofun, nofun⟩

theorem of_transCmp {α : Type} (cmp : α → α → Ordering) [Std.TransCmp cmp] (a b c : α) :
    Agreement (cmp a b) (cmp b c) (cmp a c) where
  of_eq_left h := Std.TransCmp.congr_left h
  of_eq_right h := (Std.TransCmp.congr_right h).symm
  of_same h := by
    cases hab : cmp a b with
    | lt => exact Std.TransCmp.lt_trans hab (h ▸ hab)
    | eq => exact Std.TransCmp.eq_trans hab (h ▸ hab)
    | gt => exact Std.TransCmp.gt_trans hab (h ▸ hab)

/-- A second comparison only counts where the first one finds all three values equal. -/
theorem andThen {ab bc ac ab' bc' ac' : Ordering} (first : Agreement ab bc ac)
    (second : ab = .eq → bc = .eq → Agreement ab' bc' ac') :
    Agreement (ab.then ab') (bc.then bc') (ac.then ac') := by
  obtain ⟨hleft, hright, hsame⟩ := first
  cases ab <;> cases bc
  case eq.eq =>
    have hac : ac = .eq := hleft rfl
    subst hac
    exact second rfl rfl
  all_goals
    -- one of the two outcomes is decided by its first comparison
    constructor <;> intro h <;> cases ab' <;> cases bc' <;> simp_all

theorem isLE_trans {ab bc ac : Ordering} (h : Agreement ab bc ac) (hab : ab.isLE) (hbc : bc.isLE) :
    ac.isLE := by
  obtain ⟨hleft, hright, hsame⟩ := h
  cases ab <;> cases bc <;> simp_all

end Agreement

/-! ## Numbers -/

namespace Binary64

instance : Std.TransCmp totalCompare where
  eq_swap := Std.OrientedOrd.eq_swap (α := Int)
  isLE_trans := Std.TransOrd.isLE_trans (α := Int)

end Binary64

namespace Value

/-! ## Values of different kinds -/

theorem totalCompare_of_rank_ne {v w : Value} (h : v.rank ≠ w.rank) :
    v.totalCompare w = compare v.rank w.rank := by
  cases v <;> cases w <;> first | rfl | exact absurd rfl h

/-- Three values that are not all of one kind agree by their ranks. -/
theorem agreement_of_rank_ne {u v w : Value} (h : u.rank ≠ v.rank ∨ v.rank ≠ w.rank) :
    Agreement (u.totalCompare v) (v.totalCompare w) (u.totalCompare w) := by
  have hne : ∀ {m n : ℕ}, m ≠ n → compare m n ≠ .eq := fun h he => h (Nat.compare_eq_eq.1 he)
  by_cases huv : u.rank = v.rank
  · have hvw : v.rank ≠ w.rank := h.resolve_left (fun hn => hn huv)
    have huw : u.rank ≠ w.rank := huv ▸ hvw
    rw [totalCompare_of_rank_ne hvw, totalCompare_of_rank_ne huw, huv]
    exact Agreement.strict_right _ _ (hne hvw)
  · rw [totalCompare_of_rank_ne huv]
    by_cases hvw : v.rank = w.rank
    · have huw : u.rank ≠ w.rank := fun he => huv (he.trans hvw.symm)
      rw [totalCompare_of_rank_ne huw, ← hvw]
      exact Agreement.strict_left _ _ (hne huv)
    · rw [totalCompare_of_rank_ne hvw]
      by_cases huw : u.rank = w.rank
      · rw [← huw, Std.OrientedOrd.eq_swap (a := v.rank)]
        exact Agreement.opposite _ _ (hne huv)
      · rw [totalCompare_of_rank_ne huw]
        exact Agreement.of_transCmp compare u.rank v.rank w.rank

/-! ## The order is oriented -/

mutual

theorem totalCompare_swap (v w : Value) : v.totalCompare w = (w.totalCompare v).swap := by
  cases v with
  | list xs =>
    cases w with
    | list ys => exact totalCompareItems_swap xs ys
    | _ => rfl
  | map xs =>
    cases w with
    | map ys => exact totalCompareEntries_swap xs ys
    | _ => rfl
  | _ => cases w <;> first | rfl | exact Std.OrientedOrd.eq_swap

theorem totalCompareItems_swap :
    ∀ xs ys : List Value, totalCompareItems xs ys = (totalCompareItems ys xs).swap
  | [], [] => rfl
  | [], _ :: _ => rfl
  | _ :: _, [] => rfl
  | x :: xs, y :: ys => by
    rw [totalCompareItems, totalCompareItems, totalCompare_swap x y,
      totalCompareItems_swap xs ys, Ordering.swap_then]

theorem totalCompareEntries_swap :
    ∀ xs ys : List (String × Value),
      totalCompareEntries xs ys = (totalCompareEntries ys xs).swap
  | [], [] => rfl
  | [], _ :: _ => rfl
  | _ :: _, [] => rfl
  | (k, x) :: xs, (l, y) :: ys => by
    rw [totalCompareEntries, totalCompareEntries, totalCompare_swap x y,
      totalCompareEntries_swap xs ys, Std.OrientedOrd.eq_swap (a := k), Ordering.swap_then,
      Ordering.swap_then]

end

/-! ## The order is transitive -/

mutual

theorem totalCompare_agreement (u v w : Value) :
    Agreement (u.totalCompare v) (v.totalCompare w) (u.totalCompare w) := by
  by_cases hkinds : u.rank = v.rank ∧ v.rank = w.rank
  · obtain ⟨huv, hvw⟩ := hkinds
    cases u with
    | list xs =>
      cases v <;> cases huv
      cases w <;> cases hvw
      exact totalCompareItems_agreement xs _ _
    | map xs =>
      cases v <;> cases huv
      cases w <;> cases hvw
      exact totalCompareEntries_agreement xs _ _
    | undefined | null =>
      cases v <;> cases huv
      cases w <;> cases hvw
      exact ⟨fun _ => rfl, fun _ => rfl, fun _ => rfl⟩
    | bool a =>
      cases v <;> cases huv
      cases w <;> cases hvw
      exact Agreement.of_transCmp compare a _ _
    | number x =>
      cases v <;> cases huv
      cases w <;> cases hvw
      exact Agreement.of_transCmp Binary64.totalCompare x _ _
    | string s | pageRef s =>
      cases v <;> cases huv <;> cases w <;> cases hvw <;>
        exact Agreement.of_transCmp compare s _ _
  · exact agreement_of_rank_ne (not_and_or.1 hkinds)

theorem totalCompareItems_agreement :
    ∀ xs ys zs : List Value,
      Agreement (totalCompareItems xs ys) (totalCompareItems ys zs) (totalCompareItems xs zs)
  | x :: xs, y :: ys, z :: zs =>
    (totalCompare_agreement x y z).andThen (fun _ _ => totalCompareItems_agreement xs ys zs)
  | [], [], zs => Agreement.eq_left _
  | [], _ :: _, [] => Agreement.opposite .lt _ nofun
  | [], _ :: _, _ :: _ => Agreement.strict_left .lt _ nofun
  | _ :: _, [], [] => Agreement.strict_left .gt _ nofun
  | _ :: _, [], _ :: _ => Agreement.opposite .gt _ nofun
  | _ :: _, _ :: _, [] => Agreement.strict_right _ .gt nofun

theorem totalCompareEntries_agreement :
    ∀ xs ys zs : List (String × Value),
      Agreement (totalCompareEntries xs ys) (totalCompareEntries ys zs) (totalCompareEntries xs zs)
  | (k, x) :: xs, (l, y) :: ys, (m, z) :: zs =>
    (Agreement.of_transCmp compare k l m).andThen (fun _ _ =>
      (totalCompare_agreement x y z).andThen (fun _ _ => totalCompareEntries_agreement xs ys zs))
  | [], [], zs => Agreement.eq_left _
  | [], _ :: _, [] => Agreement.opposite .lt _ nofun
  | [], _ :: _, _ :: _ => Agreement.strict_left .lt _ nofun
  | _ :: _, [], [] => Agreement.strict_left .gt _ nofun
  | _ :: _, [], _ :: _ => Agreement.opposite .gt _ nofun
  | _ :: _, _ :: _, [] => Agreement.strict_right _ .gt nofun

end

instance : Std.TransCmp totalCompare where
  eq_swap := totalCompare_swap _ _
  isLE_trans := (totalCompare_agreement _ _ _).isLE_trans

end Value

end NoteQuery
