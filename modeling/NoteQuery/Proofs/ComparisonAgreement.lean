import NoteQuery.Proofs.EqualKeys
import NoteQuery.Proofs.InsertionOrder
import NoteQuery.Proofs.PartialEquivalence

/-!
# How the three comparisons of values fit together

Filters compare values by `Value.looseEq` and `Value.compare?`, answers are sorted by
`Value.totalCompare`. The three are defined apart from each other, and this file says where they
agree (`comparisons_agree`):

* a strict outcome of `compare?` is the outcome of `totalCompare`;
* values that `compare?` finds equal are equal for `totalCompare`, but for two zeros of opposite
  sign;
* values that `totalCompare` finds equal are loosely equal unless they hold a NaN, since page
  references in place of strings are the only difference between them (`canonical_unlinked`).

So an answer in ascending order never contradicts the filter `<`: no row passes it when it is asked
for the value of an earlier row in the field that orders them (`Query.neverStepsDown_answer`).
-/

namespace NoteQuery

/-! ## Numbers -/

namespace Binary64

variable {x y : Binary64}

theorem totalKey_lt_of_orderKey_lt (h : x.orderKey < y.orderKey) : x.totalKey < y.totalKey := by
  simp only [orderKey, totalKey] at h ⊢
  split at h <;> split at h <;> simp_all <;> omega

theorem compare?_eq_some_iff {order : Ordering} :
    x.compare? y = some order ↔
      x.isNaN = false ∧ y.isNaN = false ∧ compare x.orderKey y.orderKey = order := by
  rw [compare?]
  cases x.isNaN <;> cases y.isNaN <;> simp

/-- Both orders of numbers have the same strict outcomes, where the numeric one has any. -/
theorem totalCompare_of_compare? {order : Ordering} (h : x.compare? y = some order)
    (hstrict : order ≠ .eq) : x.totalCompare y = order := by
  obtain ⟨-, -, hcompare⟩ := compare?_eq_some_iff.1 h
  cases order with
  | lt => exact Int.compare_eq_lt.2 (totalKey_lt_of_orderKey_lt (Int.compare_eq_lt.1 hcompare))
  | gt => exact Int.compare_eq_gt.2 (totalKey_lt_of_orderKey_lt (Int.compare_eq_gt.1 hcompare))
  | eq => exact absurd rfl hstrict

/-- Different numbers with one place in the numeric order are the two zeros. -/
theorem eq_zero_of_orderKey_eq (h : x.orderKey = y.orderKey) (hne : x ≠ y) :
    ∃ negative, x = zero negative ∧ y = zero !negative := by
  have hmagnitude := magnitude_eq_of_orderKey_eq h
  obtain ⟨xnegative, xmagnitude, hx⟩ := x
  obtain ⟨ynegative, ymagnitude, hy⟩ := y
  obtain rfl : xmagnitude = ymagnitude := hmagnitude
  have hnegative : ynegative = !xnegative := by
    cases xnegative <;> cases ynegative <;> simp_all
  subst hnegative
  have hzero : xmagnitude = 0 := by
    cases xnegative <;> simp [orderKey] at h <;> omega
  subst hzero
  exact ⟨xnegative, rfl, rfl⟩

/-- Numbers with one place in the numeric order tie, but for the two zeros. -/
theorem totalCompare_eq_iff_of_compare? (h : x.compare? y = some .eq) :
    x.totalCompare y = .eq ↔ ¬ ∃ negative, x = zero negative ∧ y = zero !negative := by
  have hkeys : x.orderKey = y.orderKey :=
    Std.LawfulEqOrd.eq_of_compare (compare?_eq_some_iff.1 h).2.2
  rw [totalCompare_eq_eq_iff]
  constructor
  · rintro rfl ⟨negative, hzero, hother⟩
    cases negative <;> cases hzero.symm.trans hother
  · intro hzeros
    by_contra hne
    exact hzeros (eq_zero_of_orderKey_eq hkeys hne)

end Binary64

namespace Value

/-! ## Partial and total order -/

/-- Two zeros of opposite sign, which are numerically equal and sorted apart. -/
def OppositeZeros (v w : Value) : Prop :=
  ∃ negative, v = number (.zero negative) ∧ w = number (.zero !negative)

variable {v w : Value}

theorem totalCompare_of_compare? {order : Ordering} (h : v.compare? w = some order)
    (hstrict : order ≠ .eq) : v.totalCompare w = order := by
  cases v with
  | number x =>
    cases w with
    | number y => exact Binary64.totalCompare_of_compare? h hstrict
    | _ => cases h
  | bool _ | string _ | pageRef _ =>
    -- booleans and texts are compared in the same way in both orders
    cases w <;> first | exact Option.some.inj h | cases h
  | undefined | null | list _ | map _ => cases w <;> cases h

theorem totalCompare_eq_iff_of_compare? (h : v.compare? w = some .eq) :
    v.totalCompare w = .eq ↔ ¬ v.OppositeZeros w := by
  cases v with
  | number x =>
    cases w with
    | number y =>
      rw [totalCompare, Binary64.totalCompare_eq_iff_of_compare? h, OppositeZeros]
      simp only [number.injEq]
    | _ => cases h
  | bool _ | string _ | pageRef _ =>
    cases w <;> first
      | exact iff_of_true (Option.some.inj h) (fun ⟨_, hv, _⟩ => nomatch hv)
      | cases h
  | undefined | null | list _ | map _ => cases w <;> cases h

/-! ## Total order and loose equality -/

mutual

/-- Page references in place of strings make no difference to the canonical form. -/
theorem canonical_unlinked : ∀ v : Value, v.unlinked.canonical = v.canonical
  | undefined | null | bool _ | number _ | string _ | pageRef _ => rfl
  | list items => congrArg list (canonicalItems_unlinkedItems items)
  | map entries => congrArg map (canonicalEntries_unlinkedEntries entries)

theorem canonicalItems_unlinkedItems :
    ∀ items : List Value, canonicalItems (unlinkedItems items) = canonicalItems items
  | [] => rfl
  | item :: items => by
    rw [unlinkedItems, canonicalItems, canonicalItems, canonical_unlinked item,
      canonicalItems_unlinkedItems items]

theorem canonicalEntries_unlinkedEntries : ∀ entries : List (String × Value),
    canonicalEntries (unlinkedEntries entries) = canonicalEntries entries
  | [] => rfl
  | (_, value) :: entries => by
    rw [unlinkedEntries, canonicalEntries, canonicalEntries, canonical_unlinked value,
      canonicalEntries_unlinkedEntries entries]

end

theorem canonical_eq_of_totalCompare_eq (h : v.totalCompare w = .eq) :
    v.canonical = w.canonical := by
  rw [← canonical_unlinked v, (totalCompare_eq_eq_iff v w).1 h, canonical_unlinked]

theorem looseEq_iff_of_totalCompare_eq (h : v.totalCompare w = .eq) :
    v.looseEq w = true ↔ ∀ x, number x ∈ v.parts → x.isNaN = false := by
  rw [looseEq_iff, hasNaN_eq_false_iff]
  exact and_iff_left (canonical_eq_of_totalCompare_eq h)

/-- Not all loosely equal values tie. -/
example : undefined.looseEq null = true ∧ undefined.totalCompare null = .lt := by decide +kernel

end Value

/-! ## Answers in ascending order -/

namespace Record

variable {field : String} {a b : Record}

theorem passes_less_iff {operand : Value} :
    a.passes .less field operand = true ↔ (a.field field).compare? operand = some .lt := by
  rw [passes_eq_relates rfl]
  exact beq_iff_eq

/-- A record is not below one that may come before it. -/
theorem passes_less_of_inOrder (h : Query.inOrder field false a b = true) :
    b.passes .less field (a.field field) = false := by
  rw [Bool.eq_false_iff, ne_eq, passes_less_iff]
  intro hbelow
  have hlt := Value.totalCompare_of_compare? hbelow (by decide)
  rw [Value.totalCompare_swap, Ordering.swap_eq_lt] at hlt
  exact Query.inOrder_iff.1 h hlt

/-- Reducing two records to some fields puts none below the other that was not. -/
theorem passes_less_project {fields : List String}
    (h : b.passes .less field (a.field field) = false) :
    (b.project fields).passes .less field ((a.project fields).field field) = false := by
  rw [Bool.eq_false_iff, ne_eq, passes_less_iff] at h ⊢
  rw [field_project, field_project]
  split
  · exact h
  · nofun

end Record

namespace Query

variable {q : Query} {field : String}

/-- No row is below an earlier one in a field: it does not pass the filter `<` for the value that
the earlier row has there. -/
def NeverStepsDown (field : String) (rows : List Record) : Prop :=
  rows.Pairwise (fun earlier later => later.passes .less field (earlier.field field) = false)

theorem neverStepsDown_ordered (horder : q.orderBy = some field) (hascending : q.descending = false)
    (records : List Record) : NeverStepsDown field (q.ordered records) := by
  have hsorted := (isArrangement_ordered q records).sorted field horder
  rw [hascending] at hsorted
  exact hsorted.imp (fun h => Record.passes_less_of_inOrder (inOrder_iff.2 h))

/-- Neither the limit nor the selection of fields brings a row in front of one that it is below. -/
theorem neverStepsDown_answer (horder : q.orderBy = some field) (hascending : q.descending = false)
    {records rows : List Record} (h : q.answer records = .ok rows) : NeverStepsDown field rows := by
  obtain ⟨-, rfl⟩ := answer_eq_ok_iff.1 h
  have hlimited : NeverStepsDown field (q.limited (q.ordered (q.accepted records))) := by
    rw [limited_eq_take]
    exact (neverStepsDown_ordered horder hascending _).sublist (List.take_sublist _ _)
  rw [projected]
  cases q.select with
  | none => exact hlimited
  | some fields => exact List.pairwise_map.2 (hlimited.imp Record.passes_less_project)

end Query

namespace Value

/-- **The three comparisons agree.** A strict outcome of the partial order is that of the total
order, and an equal one too unless the values are zeros of opposite sign; values that tie in the
total order are loosely equal unless they hold a NaN. Hence in ascending order no record is below an
earlier one, neither among those that are put in order nor among the rows of an answer. -/
theorem comparisons_agree (v w : Value) :
    (∀ order, v.compare? w = some order → order ≠ .eq → v.totalCompare w = order) ∧
      (v.compare? w = some .eq → (v.totalCompare w = .eq ↔ ¬ v.OppositeZeros w)) ∧
      (v.totalCompare w = .eq →
        (v.looseEq w = true ↔ ∀ x, number x ∈ v.parts → x.isNaN = false)) ∧
      ∀ (q : Query) (field : String), q.orderBy = some field → q.descending = false →
        (∀ records, Query.NeverStepsDown field (q.ordered records)) ∧
        ∀ records rows, q.answer records = .ok rows → Query.NeverStepsDown field rows := by
  refine ⟨fun order => totalCompare_of_compare?, totalCompare_eq_iff_of_compare?,
    looseEq_iff_of_totalCompare_eq, fun q field horder hascending => ⟨?_, ?_⟩⟩
  · exact Query.neverStepsDown_ordered horder hascending
  · intro records rows h
    exact Query.neverStepsDown_answer horder hascending h

/-- The three lowest ranks. -/
def lowestRanks : Query where
  table := "task"
  filters := [⟨.greater, "rank", number (.zero false)⟩]
  orderBy := some "rank"
  limit := some 3
  select := some ["rank"]

theorem comparisons_agree_lowestRanks :
    (pageRef "a").totalCompare (string "b") = .lt ∧
      (number (.zero true)).totalCompare (number (.zero false)) ≠ .eq ∧
      (list [pageRef "a", null]).looseEq (list [string "a", null]) = true ∧
      ∃ rows, lowestRanks.answer Query.rankedRecords = .ok rows ∧ rows.length = 3 ∧
        Query.NeverStepsDown "rank" rows := by
  refine ⟨?_, ?_, ?_, ?_⟩
  · exact (comparisons_agree _ _).1 .lt (by decide +kernel) (by decide)
  · intro htie
    exact ((comparisons_agree _ _).2.1 (by decide +kernel)).1 htie ⟨true, rfl, rfl⟩
  · refine ((comparisons_agree _ _).2.2.1 (by decide +kernel)).2 ?_
    simp [parts, partsOfItems]
  · have hrows := ((comparisons_agree null null).2.2.2 lowestRanks "rank" rfl rfl).2
    have hfour : (lowestRanks.accepted Query.rankedRecords).length = 4 := by decide +kernel
    refine ⟨_, rfl, ?_, hrows Query.rankedRecords _ rfl⟩
    show ((((lowestRanks.accepted Query.rankedRecords).mergeSort _).take 3).map _).length = 3
    rw [List.length_map, List.length_take, List.length_mergeSort, hfour]
    rfl

end Value

end NoteQuery
