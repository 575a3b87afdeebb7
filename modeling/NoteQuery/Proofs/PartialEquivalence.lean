import NoteQuery.Proofs.LooseEquality

/-!
# Loose equality is a partial equivalence

Loose equality is symmetric and transitive, and a value is loosely equal to itself exactly if no NaN
occurs in it (`looseEq_isPartialEquivalence`). All three are read off canonical forms.

The entries of two maps are compared in step, which is right because the names ascend. Here this is
compared with a test that relies on no order: `Value.looseEqByName` asks for maps of one size and
looks each name of the first map up in the second. On its face that test is lopsided, since nothing
looks for the names of the second map in the first; where the names ascend, and so no name stands
twice, it is the same relation (`looseEqByName_eq`).
-/

namespace NoteQuery.Value

/-! ## Looking names up -/

mutual

/-- Loose equality with maps compared name by name: two maps of one size, each name of the first
with a loosely equal value in the second. Lists are compared item by item when they have one
length. -/
def looseEqByName : Value → Value → Bool
  | undefined, undefined | undefined, null | null, undefined | null, null => true
  | bool a, bool b => a == b
  | number x, number y => x.numericEq y
  | list xs, list ys => xs.length == ys.length && looseEqByNameItems xs ys
  | map xs, map ys => xs.length == ys.length && looseEqByNameEntries xs ys
  | v, w => v.text?.isSome && v.text? == w.text?

/-- Loose equality of the items at the places that both lists have. -/
def looseEqByNameItems : List Value → List Value → Bool
  | x :: xs, y :: ys => looseEqByName x y && looseEqByNameItems xs ys
  | _, _ => true

/-- Whether each name of the first map leads to loosely equal values in both. -/
def looseEqByNameEntries : List (String × Value) → Entries Value → Bool
  | [], _ => true
  | (key, x) :: xs, ys =>
    (match Entries.find? key ys with
      | some y => looseEqByName x y
      | none => false) && looseEqByNameEntries xs ys

end

mutual

/-- For values whose maps are in order, the two ways to compare maps agree. -/
theorem looseEqByName_eq (v w : Value) (hv : v.HasOrderedMaps) (hw : w.HasOrderedMaps) :
    v.looseEqByName w = v.looseEq w := by
  cases v with
  | undefined | null | bool _ | number _ =>
    cases w <;> rfl
  | string _ | pageRef _ =>
    cases w <;> simp [looseEqByName, looseEq, text?]
  | list xs =>
    cases w with
    | list ys =>
      exact looseEqByNameItems_eq xs ys (hasOrderedMaps_list_iff.1 hv)
        (hasOrderedMaps_list_iff.1 hw)
    | _ => rfl
  | map xs =>
    cases w with
    | map ys =>
      obtain ⟨hxs, hvalues⟩ := hasOrderedMaps_map_iff.1 hv
      obtain ⟨hys, hothers⟩ := hasOrderedMaps_map_iff.1 hw
      rw [looseEqByName, looseEq, Bool.eq_iff_iff, looseEqEntries_iff_of_ascending hxs hys,
        Bool.and_eq_true, beq_iff_eq, looseEqByNameEntries_iff xs ys hvalues hothers]
    | _ => rfl

theorem looseEqByNameItems_eq : ∀ xs ys : List Value, (∀ x ∈ xs, x.HasOrderedMaps) →
    (∀ y ∈ ys, y.HasOrderedMaps) →
    (xs.length == ys.length && looseEqByNameItems xs ys) = looseEqItems xs ys
  | [], [], _, _ => rfl
  | [], _ :: _, _, _ => rfl
  | _ :: _, [], _, _ => rfl
  | x :: xs, y :: ys, hxs, hys => by
    obtain ⟨hx, hxs⟩ := List.forall_mem_cons.1 hxs
    obtain ⟨hy, hys⟩ := List.forall_mem_cons.1 hys
    rw [looseEqItems, looseEqByNameItems, looseEqByName_eq x y hx hy,
      ← looseEqByNameItems_eq xs ys hxs hys, Bool.and_left_comm]
    simp

theorem looseEqByNameEntries_iff : ∀ xs ys : Entries Value, (∀ entry ∈ xs, entry.2.HasOrderedMaps) →
    (∀ entry ∈ ys, entry.2.HasOrderedMaps) →
    (looseEqByNameEntries xs ys = true ↔
      ∀ entry ∈ xs, ∃ y, Entries.find? entry.1 ys = some y ∧ entry.2.looseEq y = true)
  | [], _, _, _ => by simp [looseEqByNameEntries]
  | (key, x) :: xs, ys, hxs, hys => by
    obtain ⟨hx, hxs⟩ := List.forall_mem_cons.1 hxs
    rw [looseEqByNameEntries, Bool.and_eq_true, looseEqByNameEntries_iff xs ys hxs hys,
      List.forall_mem_cons]
    apply and_congr_left'
    cases hfind : Entries.find? key ys with
    | none => simp
    | some y =>
      have hy : y.HasOrderedMaps := hys _ (Entries.mem_of_find?_eq_some hfind)
      simp [looseEqByName_eq x y hx hy]

end

/-- A name that stood twice in a map would make the test lopsided. -/
example :
    let twice := map [("a", null), ("a", null)]
    let other := map [("a", null), ("b", null)]
    twice.looseEqByName other = true ∧ other.looseEqByName twice = false := by
  decide +kernel

/-! ## Numbers in a value -/

mutual

theorem hasNaN_eq_false_iff (v : Value) :
    v.hasNaN = false ↔ ∀ x, number x ∈ v.parts → x.isNaN = false := by
  cases v with
  | undefined | null | bool _ | string _ | pageRef _ => simp [hasNaN, parts]
  | number x => simp [hasNaN, parts]
  | list items =>
    rw [hasNaN, hasNaNItems_eq_false_iff items]
    simp [parts]
  | map entries =>
    rw [hasNaN, hasNaNEntries_eq_false_iff entries]
    simp [parts]

theorem hasNaNItems_eq_false_iff : ∀ items : List Value,
    hasNaNItems items = false ↔ ∀ x, number x ∈ partsOfItems items → x.isNaN = false
  | [] => by simp [hasNaNItems, partsOfItems]
  | item :: items => by
    rw [hasNaNItems, Bool.or_eq_false_iff, hasNaN_eq_false_iff item, hasNaNItems_eq_false_iff items]
    simp [partsOfItems, or_imp, forall_and]

theorem hasNaNEntries_eq_false_iff : ∀ entries : List (String × Value),
    hasNaNEntries entries = false ↔ ∀ x, number x ∈ partsOfEntries entries → x.isNaN = false
  | [] => by simp [hasNaNEntries, partsOfEntries]
  | (_, value) :: entries => by
    rw [hasNaNEntries, Bool.or_eq_false_iff, hasNaN_eq_false_iff value,
      hasNaNEntries_eq_false_iff entries]
    simp [partsOfEntries, or_imp, forall_and]

end

/-! ## The laws -/

theorem hasNaN_eq_of_canonical_eq {v w : Value} (h : v.canonical = w.canonical) :
    v.hasNaN = w.hasNaN := by
  rw [← hasNaN_canonical v, h, hasNaN_canonical]

theorem looseEq_symm {v w : Value} (h : v.looseEq w = true) : w.looseEq v = true := by
  rw [looseEq_iff] at h ⊢
  obtain ⟨hnumbers, hcanonical⟩ := h
  exact ⟨(hasNaN_eq_of_canonical_eq hcanonical).symm.trans hnumbers, hcanonical.symm⟩

theorem looseEq_comm (v w : Value) : v.looseEq w = w.looseEq v :=
  Bool.eq_iff_iff.2 ⟨looseEq_symm, looseEq_symm⟩

theorem looseEq_trans {u v w : Value} (huv : u.looseEq v = true) (hvw : v.looseEq w = true) :
    u.looseEq w = true := by
  rw [looseEq_iff] at huv hvw ⊢
  exact ⟨huv.1, huv.2.trans hvw.2⟩

theorem looseEq_self_iff (v : Value) :
    v.looseEq v = true ↔ ∀ x, number x ∈ v.parts → x.isNaN = false := by
  rw [looseEq_iff, ← hasNaN_eq_false_iff]
  exact and_iff_left rfl

/-- **Loose equality is a partial equivalence.** It is symmetric and transitive, and what is not
loosely equal to itself are the values with a NaN in them. Where the maps are in order, it is the
equality that looks names up from the first map in the second only. -/
theorem looseEq_isPartialEquivalence (u v w : Value) :
    u.looseEq v = v.looseEq u ∧
      (u.looseEq v = true → v.looseEq w = true → u.looseEq w = true) ∧
      (u.looseEq u = true ↔ ∀ x, number x ∈ u.parts → x.isNaN = false) ∧
      (u.HasOrderedMaps → v.HasOrderedMaps → u.looseEq v = u.looseEqByName v) := by
  refine ⟨looseEq_comm u v, looseEq_trans, looseEq_self_iff u, ?_⟩
  intro hu hv
  exact (looseEqByName_eq u v hu hv).symm

/-- A map with a reference, a missing value and a negative zero. -/
def linkedMap : Value :=
  map [("pages", list [pageRef "Home", undefined]), ("rank", number (.zero true))]

/-- The same map with a string, null and a positive zero in their places. -/
def unlinkedMap : Value :=
  map [("pages", list [string "Home", null]), ("rank", number (.zero false))]

theorem looseEq_isPartialEquivalence_linkedMap :
    linkedMap.HasOrderedMaps ∧ unlinkedMap.HasOrderedMaps ∧
      linkedMap.looseEqByName unlinkedMap = true ∧ unlinkedMap.looseEq linkedMap = true ∧
      linkedMap.looseEq linkedMap = true := by
  have hascending : ∀ pages rank : Value, Entries.Ascending [("pages", pages), ("rank", rank)] := by
    intro pages rank
    show List.Pairwise (· < ·) ["pages", "rank"]
    decide +kernel
  have hlinked : linkedMap.HasOrderedMaps := by
    simp [HasOrderedMaps, linkedMap, parts, partsOfItems, partsOfEntries, hascending]
  have hunlinked : unlinkedMap.HasOrderedMaps := by
    simp [HasOrderedMaps, unlinkedMap, parts, partsOfItems, partsOfEntries, hascending]
  obtain ⟨hcomm, htrans, -, hname⟩ := looseEq_isPartialEquivalence linkedMap unlinkedMap linkedMap
  have hloose : linkedMap.looseEq unlinkedMap = true := rfl
  have hback : unlinkedMap.looseEq linkedMap = true := hcomm ▸ hloose
  refine ⟨hlinked, hunlinked, ?_, hback, htrans hloose hback⟩
  rw [← hname hlinked hunlinked, hloose]

end NoteQuery.Value
