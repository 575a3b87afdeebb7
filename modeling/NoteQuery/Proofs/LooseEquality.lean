import NoteQuery.Proofs.Arrangement
import NoteQuery.Proofs.JsonRoundTrip
import Mathlib.Data.List.Perm.Subperm

/-!
# Loose equality and the filters

Loose equality ignores three differences, at any depth of a value: a missing field or null, a page
reference or the string of its text, and the sign of a zero. `Value.canonical` takes these out of a
value, and two values are loosely equal exactly if they have the same canonical form and no NaN in
it (`looseEq_iff`).

Every filter that does not search for a pattern looks at its two values through their canonical
forms only (`Comparison.relates_canonical`), so that loosely equal values can stand for each other
on both of its sides (`Filter.accepts_iff_of_looseEq`). The names of a map ascend; for such maps
entry by entry is the same as name by name (`looseEqEntries_iff_of_ascending`). `Record.passes` puts
such a filter to one field of a record.
-/

namespace NoteQuery

/-! ## Numbers -/

namespace Binary64

theorem isNaN_withoutNegativeZero (x : Binary64) : x.withoutNegativeZero.isNaN = x.isNaN := by
  rw [withoutNegativeZero]
  split
  · rename_i hzero
    have hmagnitude : x.magnitude = 0 := eq_of_beq hzero
    rw [isNaN, isNaN, hmagnitude]
    rfl
  · rfl

theorem magnitude_eq_of_orderKey_eq {x y : Binary64} (h : x.orderKey = y.orderKey) :
    x.magnitude = y.magnitude := by
  simp only [orderKey] at h
  split at h <;> split at h <;> omega

/-- Numbers share a place in the numeric order exactly if they differ in the sign of a zero at
most. -/
theorem orderKey_eq_iff {x y : Binary64} :
    x.orderKey = y.orderKey ↔ x.withoutNegativeZero = y.withoutNegativeZero := by
  constructor
  · intro h
    have hmagnitude := magnitude_eq_of_orderKey_eq h
    obtain ⟨xnegative, xmagnitude, hx⟩ := x
    obtain ⟨ynegative, ymagnitude, hy⟩ := y
    obtain rfl : xmagnitude = ymagnitude := hmagnitude
    by_cases hzero : xmagnitude = 0
    · subst hzero
      rfl
    · have hnegative : xnegative = ynegative := by
        cases xnegative <;> cases ynegative <;> simp only [orderKey] at h ⊢ <;> grind
      rw [hnegative]
  · intro h
    rw [← orderKey_withoutNegativeZero x, h, orderKey_withoutNegativeZero]

theorem numericEq_iff {x y : Binary64} :
    x.numericEq y = true ↔ x.isNaN = false ∧ x.withoutNegativeZero = y.withoutNegativeZero := by
  have hkeys := orderKey_eq_iff (x := x) (y := y)
  constructor
  · intro h
    simp only [numericEq, Bool.and_eq_true, Bool.not_eq_true', beq_iff_eq] at h
    exact ⟨h.1.1, hkeys.1 h.2⟩
  · rintro ⟨hx, heq⟩
    have hy : y.isNaN = false := by
      rw [← isNaN_withoutNegativeZero y, ← heq, isNaN_withoutNegativeZero, hx]
    simp [numericEq, hx, hy, hkeys.2 heq]

theorem compare?_withoutNegativeZero (x y : Binary64) :
    x.withoutNegativeZero.compare? y.withoutNegativeZero = x.compare? y := by
  rw [compare?, compare?, isNaN_withoutNegativeZero, isNaN_withoutNegativeZero,
    orderKey_withoutNegativeZero, orderKey_withoutNegativeZero]

end Binary64

namespace Value

/-! ## Canonical forms -/

mutual

/-- A value with null for every missing field in it, the string of its text for every page reference
and the positive zero for every negative one. -/
def canonical : Value → Value
  | undefined => null
  | null => null
  | bool b => bool b
  | number x => number x.withoutNegativeZero
  | string s => string s
  | pageRef s => string s
  | list items => list (canonicalItems items)
  | map entries => map (canonicalEntries entries)

/-- The canonical forms of items. -/
def canonicalItems : List Value → List Value
  | [] => []
  | item :: items => canonical item :: canonicalItems items

/-- Entries with the canonical forms of their values. -/
def canonicalEntries : List (String × Value) → List (String × Value)
  | [] => []
  | (key, value) :: entries => (key, canonical value) :: canonicalEntries entries

end

mutual

/-- Whether a NaN occurs in a value at any depth. -/
def hasNaN : Value → Bool
  | number x => x.isNaN
  | list items => hasNaNItems items
  | map entries => hasNaNEntries entries
  | _ => false

/-- Whether a NaN occurs in an item. -/
def hasNaNItems : List Value → Bool
  | [] => false
  | item :: items => hasNaN item || hasNaNItems items

/-- Whether a NaN occurs in the value of an entry. -/
def hasNaNEntries : List (String × Value) → Bool
  | [] => false
  | (_, value) :: entries => hasNaN value || hasNaNEntries entries

end

theorem canonicalItems_eq_map (items : List Value) :
    canonicalItems items = items.map canonical := by
  induction items with
  | nil => rfl
  | cons item items ih => rw [canonicalItems, ih, List.map_cons]

mutual

/-- The canonical form is its own canonical form. -/
theorem canonical_canonical : ∀ v : Value, v.canonical.canonical = v.canonical
  | undefined | null | bool _ | string _ | pageRef _ => rfl
  | number x => congrArg number x.withoutNegativeZero_withoutNegativeZero
  | list items => congrArg list (canonicalItems_canonicalItems items)
  | map entries => congrArg map (canonicalEntries_canonicalEntries entries)

theorem canonicalItems_canonicalItems :
    ∀ items : List Value, canonicalItems (canonicalItems items) = canonicalItems items
  | [] => rfl
  | item :: items => by
    rw [canonicalItems, canonicalItems, canonical_canonical item,
      canonicalItems_canonicalItems items]

theorem canonicalEntries_canonicalEntries : ∀ entries : List (String × Value),
    canonicalEntries (canonicalEntries entries) = canonicalEntries entries
  | [] => rfl
  | (key, value) :: entries => by
    rw [canonicalEntries, canonicalEntries, canonical_canonical value,
      canonicalEntries_canonicalEntries entries]

end

mutual

theorem hasNaN_canonical : ∀ v : Value, v.canonical.hasNaN = v.hasNaN
  | undefined | null | bool _ | string _ | pageRef _ => rfl
  | number x => x.isNaN_withoutNegativeZero
  | list items => hasNaNItems_canonicalItems items
  | map entries => hasNaNEntries_canonicalEntries entries

theorem hasNaNItems_canonicalItems :
    ∀ items : List Value, hasNaNItems (canonicalItems items) = hasNaNItems items
  | [] => rfl
  | item :: items => by
    rw [canonicalItems, hasNaNItems, hasNaNItems, hasNaN_canonical item,
      hasNaNItems_canonicalItems items]

theorem hasNaNEntries_canonicalEntries : ∀ entries : List (String × Value),
    hasNaNEntries (canonicalEntries entries) = hasNaNEntries entries
  | [] => rfl
  | (_, value) :: entries => by
    rw [canonicalEntries, hasNaNEntries, hasNaNEntries, hasNaN_canonical value,
      hasNaNEntries_canonicalEntries entries]

end

/-! ## Loose equality is equality of canonical forms -/

mutual

theorem looseEq_iff (v w : Value) :
    v.looseEq w = true ↔ v.hasNaN = false ∧ v.canonical = w.canonical := by
  cases v with
  | undefined | null | bool _ | string _ | pageRef _ =>
    cases w <;> simp [looseEq, hasNaN, canonical]
  | number x =>
    cases w with
    | number y =>
      rw [looseEq, hasNaN, canonical, canonical, number.injEq]
      exact Binary64.numericEq_iff
    | _ => simp [looseEq, canonical]
  | list xs =>
    cases w with
    | list ys =>
      rw [looseEq, hasNaN, canonical, canonical, list.injEq]
      exact looseEqItems_iff xs ys
    | _ => simp [looseEq, canonical]
  | map xs =>
    cases w with
    | map ys =>
      rw [looseEq, hasNaN, canonical, canonical, map.injEq]
      exact looseEqEntries_iff xs ys
    | _ => simp [looseEq, canonical]

theorem looseEqItems_iff : ∀ xs ys : List Value,
    looseEqItems xs ys = true ↔ hasNaNItems xs = false ∧ canonicalItems xs = canonicalItems ys
  | [], [] => iff_of_true rfl ⟨rfl, rfl⟩
  | [], _ :: _ => iff_of_false nofun (fun h => nomatch h.2)
  | _ :: _, [] => iff_of_false nofun (fun h => nomatch h.2)
  | x :: xs, y :: ys => by
    rw [looseEqItems, hasNaNItems, canonicalItems, canonicalItems, Bool.and_eq_true,
      looseEq_iff x y, looseEqItems_iff xs ys, Bool.or_eq_false_iff, List.cons.injEq]
    exact and_and_and_comm

theorem looseEqEntries_iff : ∀ xs ys : List (String × Value),
    looseEqEntries xs ys = true ↔
      hasNaNEntries xs = false ∧ canonicalEntries xs = canonicalEntries ys
  | [], [] => iff_of_true rfl ⟨rfl, rfl⟩
  | [], _ :: _ => iff_of_false nofun (fun h => nomatch h.2)
  | _ :: _, [] => iff_of_false nofun (fun h => nomatch h.2)
  | (k, x) :: xs, (l, y) :: ys => by
    rw [looseEqEntries, hasNaNEntries, canonicalEntries, canonicalEntries, Bool.and_eq_true,
      Bool.and_eq_true, looseEq_iff x y, looseEqEntries_iff xs ys, Bool.or_eq_false_iff,
      List.cons.injEq, Prod.mk.injEq, beq_iff_eq]
    constructor
    · rintro ⟨⟨hkey, hx, hvalue⟩, hxs, hrest⟩
      exact ⟨⟨hx, hxs⟩, ⟨hkey, hvalue⟩, hrest⟩
    · rintro ⟨⟨hx, hxs⟩, ⟨hkey, hvalue⟩, hrest⟩
      exact ⟨⟨hkey, hx, hvalue⟩, hxs, hrest⟩

end

theorem canonical_eq_of_looseEq {v w : Value} (h : v.looseEq w = true) :
    v.canonical = w.canonical :=
  ((looseEq_iff v w).1 h).2

/-! ## Maps name by name -/

/-- Lists of ascending names that are equally long are equal if the second has every name of the
first. -/
theorem keys_eq_of_ascending {xs ys : Entries Value} (hxs : xs.Ascending) (hys : ys.Ascending)
    (hlength : xs.length = ys.length) (hsubset : xs.keys ⊆ ys.keys) : xs.keys = ys.keys := by
  have hnodup : xs.keys.Nodup := by
    apply hxs.imp
    rintro a b hlt rfl
    exact String.lt_irrefl a hlt
  -- as many different names as the second list has, all of them from it
  have hperm : xs.keys.Perm ys.keys := by
    apply (List.subperm_of_subset hnodup hsubset).perm_of_length_le
    rw [Entries.keys, Entries.keys, List.length_map, List.length_map, hlength]
  apply hperm.eq_of_pairwise ?_ hxs hys
  intro a b _ _ hab hba
  exact absurd (String.lt_trans hab hba) (String.lt_irrefl a)

/-- Maps are loosely equal exactly if they have equally many names and each name of the first leads
to loosely equal values in both. -/
theorem looseEqEntries_iff_of_ascending {xs ys : Entries Value} (hxs : xs.Ascending)
    (hys : ys.Ascending) :
    looseEqEntries xs ys = true ↔ xs.length = ys.length ∧
      ∀ entry ∈ xs, ∃ y, ys.find? entry.1 = some y ∧ entry.2.looseEq y = true := by
  induction xs generalizing ys with
  | nil => cases ys <;> simp [looseEqEntries]
  | cons entry xs ih =>
    obtain ⟨k, x⟩ := entry
    cases ys with
    | nil => simp [looseEqEntries]
    | cons other ys =>
      obtain ⟨l, y⟩ := other
      obtain ⟨hfirst, hxs'⟩ := List.pairwise_cons.1 hxs
      obtain ⟨-, hys'⟩ := List.pairwise_cons.1 hys
      -- a later name of the first map is not the first name
      have hlater : ∀ entry ∈ xs, k ≠ entry.1 := by
        rintro entry hentry rfl
        exact String.lt_irrefl _ (hfirst entry.1 (List.mem_map.2 ⟨entry, hentry, rfl⟩))
      rw [looseEqEntries, Bool.and_eq_true, Bool.and_eq_true, beq_iff_eq, ih hxs' hys']
      constructor
      · rintro ⟨⟨rfl, hxy⟩, hlength, hrest⟩
        refine ⟨congrArg (· + 1) hlength, List.forall_mem_cons.2 ⟨⟨y, ?_, hxy⟩, ?_⟩⟩
        · exact if_pos rfl
        · intro entry hentry
          rw [Entries.find?, if_neg (hlater entry hentry)]
          exact hrest entry hentry
      · rintro ⟨hlength, hall⟩
        have hsubset : Entries.keys ((k, x) :: xs) ⊆ Entries.keys ((l, y) :: ys) := by
          intro name hname
          obtain ⟨entry, hentry, rfl⟩ := List.mem_map.1 hname
          obtain ⟨value, hfind, -⟩ := hall entry hentry
          exact List.mem_map.2 ⟨_, Entries.mem_of_find?_eq_some hfind, rfl⟩
        obtain rfl : k = l := (List.cons.inj (keys_eq_of_ascending hxs hys hlength hsubset)).1
        obtain ⟨⟨y', hfind, hxy⟩, hrest⟩ := List.forall_mem_cons.1 hall
        rw [Entries.find?, if_pos rfl] at hfind
        obtain rfl := Option.some.inj hfind
        refine ⟨⟨rfl, hxy⟩, Nat.succ.inj hlength, ?_⟩
        intro entry hentry
        have hin := hrest entry hentry
        rwa [Entries.find?, if_neg (hlater entry hentry)] at hin

/-! ## What the filters see of a value -/

theorem looseEq_canonical (v w : Value) : v.canonical.looseEq w.canonical = v.looseEq w := by
  rw [Bool.eq_iff_iff, looseEq_iff, looseEq_iff, hasNaN_canonical, canonical_canonical,
    canonical_canonical]

theorem compare?_canonical (v w : Value) : v.canonical.compare? w.canonical = v.compare? w := by
  cases v with
  | number x =>
    cases w with
    | number y => exact x.compare?_withoutNegativeZero y
    | _ => rfl
  | _ => cases w <;> rfl

theorem contains_canonical (v x : Value) : v.canonical.contains x.canonical = v.contains x := by
  cases v with
  | list items =>
    rw [canonical, canonicalItems_eq_map, contains, contains, List.any_map]
    congr 1
    funext item
    exact looseEq_canonical item x
  | _ => rfl

theorem meets_canonical (v w : Value) : v.canonical.meets w.canonical = v.meets w := by
  cases v with
  | list items =>
    cases w with
    | list others =>
      -- the items of the field are looked up in the list of the filter
      have hitem : ∀ item : Value,
          (list others).canonical.contains item.canonical = (list others).contains item :=
        contains_canonical (list others)
      rw [canonical, canonicalItems_eq_map, canonical, meets, meets, List.any_map]
      congr 1
      funext item
      exact hitem item
    | _ => exact contains_canonical (list items) _
  | _ => exact looseEq_canonical _ w

end Value

/-! ## Filters without a pattern -/

/-- The relation between a field's value and the filter's value that a comparison asks for, for the
comparisons that search for no pattern. -/
def Comparison.relates : Comparison → Value → Value → Bool
  | .equal, field, operand => field.meets operand
  | .notEqual, field, operand => !field.looseEq operand
  | .less, field, operand => field.isBelow operand
  | .lessOrEqual, field, operand => field.isAtMost operand
  | .greater, field, operand => field.isAbove operand
  | .greaterOrEqual, field, operand => field.isAtLeast operand
  | .isIn, field, operand => operand.contains field
  | .matching, _, _ | .notMatching, _, _ => false

theorem Comparison.relates_canonical (c : Comparison) (v w : Value) :
    c.relates v.canonical w.canonical = c.relates v w := by
  cases c with
  | equal => exact v.meets_canonical w
  | notEqual => exact congrArg not (v.looseEq_canonical w)
  | isIn => exact w.contains_canonical v
  | matching | notMatching => rfl
  | less | lessOrEqual | greater | greaterOrEqual =>
    simp only [relates, Value.isBelow, Value.isAtMost, Value.isAbove, Value.isAtLeast,
      Value.compare?_canonical]

namespace Filter

theorem condition_of_not_takesPattern {f : Filter} (h : f.comparison.takesPattern = false) :
    f.condition =
      .ok (fun record => f.comparison.relates (record.field f.field) f.value) := by
  rw [condition, valueCondition]
  cases hc : f.comparison with
  | matching | notMatching => rw [hc] at h; cases h
  | _ => rfl

theorem accepts_of_not_takesPattern {f : Filter} (h : f.comparison.takesPattern = false)
    (record : Record) :
    f.accepts record = f.comparison.relates (record.field f.field) f.value := by
  rw [accepts, condition_of_not_takesPattern h]

/-- Filters with the same comparison accept the same fields if the values on both sides have the
same canonical forms. -/
theorem accepts_eq_of_canonical_eq {f g : Filter} (hpattern : f.comparison.takesPattern = false)
    (hcomparison : f.comparison = g.comparison) (hvalue : f.value.canonical = g.value.canonical)
    {r s : Record} (hfield : (r.field f.field).canonical = (s.field g.field).canonical) :
    f.accepts r = g.accepts s := by
  have hpattern' : g.comparison.takesPattern = false := hcomparison ▸ hpattern
  calc f.accepts r
      = f.comparison.relates (r.field f.field).canonical f.value.canonical := by
        rw [accepts_of_not_takesPattern hpattern, Comparison.relates_canonical]
    _ = g.comparison.relates (s.field g.field).canonical g.value.canonical := by
        rw [hcomparison, hvalue, hfield]
    _ = g.accepts s := by
        rw [accepts_of_not_takesPattern hpattern', Comparison.relates_canonical]

/-- **Loose equality is a congruence.** Two filters with one comparison that searches for no pattern
can both be prepared. Given loosely equal values they treat loosely equal fields alike, missing ones
included; and nothing that the canonical forms leave out makes a difference to them, also where a
NaN keeps values from being loosely equal to themselves. -/
theorem accepts_iff_of_looseEq {f g : Filter} (hpattern : f.comparison.takesPattern = false)
    (hcomparison : f.comparison = g.comparison) :
    f.Prepares ∧ g.Prepares ∧
    (∀ r s : Record, f.value.looseEq g.value = true →
      (r.field f.field).looseEq (s.field g.field) = true →
      (f.accepts r = true ↔ g.accepts s = true)) ∧
    (∀ r s : Record, f.value.canonical = g.value.canonical →
      (r.field f.field).canonical = (s.field g.field).canonical →
      (f.accepts r = true ↔ g.accepts s = true)) := by
  refine ⟨?_, ?_, ?_, ?_⟩
  · exact ⟨_, condition_of_not_takesPattern hpattern⟩
  · exact ⟨_, condition_of_not_takesPattern (hcomparison ▸ hpattern)⟩
  · intro r s hvalue hfield
    have hvalue' := Value.canonical_eq_of_looseEq hvalue
    have hfield' := Value.canonical_eq_of_looseEq hfield
    rw [accepts_eq_of_canonical_eq hpattern hcomparison hvalue' hfield']
  · intro r s hvalue hfield
    rw [accepts_eq_of_canonical_eq hpattern hcomparison hvalue hfield]

/-- A list with a page reference and null beside one with a string and a missing value, asked for a
missing field and for a null one; and lists with a NaN in which a zero has either sign. -/
theorem accepts_iff_of_looseEq_isIn :
    ((⟨.isIn, "x", .list [.pageRef "a", .null]⟩ : Filter).accepts Record.empty = true ↔
      (⟨.isIn, "y", .list [.string "a", .undefined]⟩ : Filter).accepts
        (Record.ofList [("y", .null)]) = true) ∧
    ((⟨.isIn, "x", .list [.number (.nan false), .number (.zero true)]⟩ : Filter).accepts
        (Record.ofList [("x", .number (.zero true))]) = true ↔
      (⟨.isIn, "x", .list [.number (.nan false), .number (.zero false)]⟩ : Filter).accepts
        (Record.ofList [("x", .number (.zero false))]) = true) := by
  constructor
  · refine (accepts_iff_of_looseEq ?_ ?_).2.2.1 _ _ ?_ ?_ <;> rfl
  · refine (accepts_iff_of_looseEq ?_ ?_).2.2.2 _ _ ?_ ?_ <;> rfl

end Filter

/-! ## One field and one value -/

namespace Record

/-- Whether a record passes the filter that compares one of its fields with a value. -/
def passes (r : Record) (c : Comparison) (field : String) (operand : Value) : Bool :=
  (Filter.mk c field operand).accepts r

theorem passes_eq_relates {c : Comparison} (h : c.takesPattern = false) (r : Record)
    (field : String) (operand : Value) :
    r.passes c field operand = c.relates (r.field field) operand :=
  Filter.accepts_of_not_takesPattern h r

end Record

end NoteQuery
