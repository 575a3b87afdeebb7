import NoteQuery.Proofs.PartialEquivalence

/-!
# The filters `=`, `!=` and `in`

The filter `=` treats lists in a way of its own: a list field passes if it holds the filter's value,
or shares an item with the filter's list. The filter `!=` knows no such case, and `in` looks for the
field in the filter's list. What the three say of each other rests on the symmetry of loose
equality:

* `!=` is the negation of `=` where the field is no list, and for lists the two can both accept.
  Only two empty lists are accepted by neither of them, being equal without an item in common
  (`not_meets_and_looseEq_iff`);
* `in` a list is `=` for one of its items where the field is no list;
* `=` for two lists does not depend on which of them is the field (`meets_list_list_comm`).
-/

namespace NoteQuery

namespace Value

variable {v w : Value} {items others : List Value}

/-! ## Lists -/

theorem contains_list_iff : (list items).contains v = true ↔
    ∃ item ∈ items, item.looseEq v = true :=
  List.any_eq_true

theorem contains_of_list?_eq_none (h : v.list? = none) : v.contains w = false := by
  cases v with
  | list items => cases h
  | _ => rfl

/-- Of a field that is no list, `=` asks for loose equality. -/
theorem meets_of_list?_eq_none (h : v.list? = none) : v.meets w = v.looseEq w := by
  cases v with
  | list items => cases h
  | _ => rfl

theorem meets_list_list_iff :
    (list items).meets (list others) = true ↔
      ∃ item ∈ items, ∃ other ∈ others, item.looseEq other = true := by
  rw [meets, List.any_eq_true]
  simp only [contains_list_iff, looseEq_comm]

theorem meets_list_list_comm :
    (list items).meets (list others) = (list others).meets (list items) := by
  rw [Bool.eq_iff_iff, meets_list_list_iff, meets_list_list_iff]
  constructor <;> rintro ⟨x, hx, y, hy, hxy⟩ <;> exact ⟨y, hy, x, hx, looseEq_comm x y ▸ hxy⟩

/-- Equal lists share their first items, if they have any. -/
theorem meets_of_looseEq (h : v.looseEq w = true) :
    v.meets w = true ∨ v = list [] ∧ w = list [] := by
  cases v with
  | list items =>
    cases w with
    | list others =>
      cases items with
      | nil =>
        cases others with
        | nil => exact .inr ⟨rfl, rfl⟩
        | cons other others => cases h
      | cons item items =>
        cases others with
        | nil => cases h
        | cons other others =>
          rw [looseEq, looseEqItems, Bool.and_eq_true] at h
          exact .inl (meets_list_list_iff.2
            ⟨item, List.mem_cons_self, other, List.mem_cons_self, h.1⟩)
    | _ => cases h
  | _ => exact .inl h

theorem not_meets_and_looseEq_iff :
    v.meets w = false ∧ v.looseEq w = true ↔ v = list [] ∧ w = list [] := by
  constructor
  · rintro ⟨hmeets, hloose⟩
    exact (meets_of_looseEq hloose).resolve_left (by rw [hmeets]; nofun)
  · rintro ⟨rfl, rfl⟩
    exact ⟨rfl, rfl⟩

/-- Different lists with an item in common are accepted by `=` and by `!=`. -/
example :
    let field := list [string "a", null]
    let operand := list [pageRef "a"]
    field.meets operand = true ∧ field.looseEq operand = false := by
  decide +kernel

end Value

namespace Record

variable (r : Record) (field : String) (operand : Value)

theorem passes_equal : r.passes .equal field operand = (r.field field).meets operand :=
  r.passes_eq_relates rfl field operand

theorem passes_notEqual : r.passes .notEqual field operand = !(r.field field).looseEq operand :=
  r.passes_eq_relates rfl field operand

theorem passes_isIn : r.passes .isIn field operand = operand.contains (r.field field) :=
  r.passes_eq_relates rfl field operand

/-- **Laws of `=`, `!=` and `in`.** These filters can always be prepared. A record passes one of `=`
and `!=` at least, unless its field and the filter's value are both empty lists. Where the field is
no list, it passes exactly one of them, and `in` a list exactly if `=` for an item of the list.
Nothing is in a value that is no list. Two lists pass `=` exactly if they share a pair of loosely
equal items, with either of them as the field. -/
theorem passes_equality_laws :
    (∀ c ∈ [Comparison.equal, .notEqual, .isIn], (Filter.mk c field operand).Prepares) ∧
    (r.passes .equal field operand = false ∧ r.passes .notEqual field operand = false ↔
      r.field field = .list [] ∧ operand = .list []) ∧
    ((r.field field).list? = none →
      r.passes .notEqual field operand = (!r.passes .equal field operand) ∧
      ∀ items, operand = .list items →
        (r.passes .isIn field operand = true ↔ ∃ item ∈ items, r.passes .equal field item = true)) ∧
    (operand.list? = none → r.passes .isIn field operand = false) ∧
    ∀ items others, r.field field = .list items → operand = .list others →
      (r.passes .equal field operand = true ↔
        ∃ item ∈ items, ∃ other ∈ others, item.looseEq other = true) ∧
      ∀ swapped : Record, swapped.field field = operand →
        swapped.passes .equal field (.list items) = r.passes .equal field operand := by
  simp only [passes_equal, passes_notEqual, passes_isIn]
  refine ⟨?_, ?_, ?_, Value.contains_of_list?_eq_none, ?_⟩
  · intro c hc
    have hpattern : c.takesPattern = false := by
      revert c
      decide
    exact ⟨_, Filter.condition_of_not_takesPattern hpattern⟩
  · rw [Bool.not_eq_false']
    exact Value.not_meets_and_looseEq_iff
  · intro hscalar
    refine ⟨by rw [Value.meets_of_list?_eq_none hscalar], ?_⟩
    rintro items rfl
    simp only [Value.contains_list_iff, Value.meets_of_list?_eq_none hscalar, Value.looseEq_comm]
  · rintro items others hfield rfl
    rw [hfield]
    refine ⟨Value.meets_list_list_iff, fun swapped hswapped => ?_⟩
    rw [hswapped, Value.meets_list_list_comm]

/-- A page with a NaN among its tags and without a state. -/
def taggedPage : Record :=
  ofList [("tags", .list [.string "a", .number (.nan false)]), ("state", .null)]

/-- A page whose tags are a link and an empty list. -/
def linkingPage : Record := ofList [("tags", .list [.pageRef "a", .list []])]

theorem passes_equality_laws_taggedPage :
    taggedPage.passes .notEqual "state" (.bool true) = true ∧
      taggedPage.passes .isIn "state" (.list [.bool true, .undefined]) = true ∧
      taggedPage.passes .isIn "tags" (.string "a") = false ∧
      taggedPage.passes .equal "tags" (.list [.pageRef "a", .list []]) = true ∧
      linkingPage.passes .equal "tags" (.list [.string "a", .number (.nan false)]) = true := by
  obtain ⟨-, -, hscalar, -⟩ := passes_equality_laws taggedPage "state" (.bool true)
  obtain ⟨-, -, hitems, -⟩ :=
    passes_equality_laws taggedPage "state" (.list [.bool true, .undefined])
  obtain ⟨-, -, -, hnolist, -⟩ := passes_equality_laws taggedPage "tags" (.string "a")
  obtain ⟨-, -, -, -, hlists⟩ :=
    passes_equality_laws taggedPage "tags" (.list [.pageRef "a", .list []])
  obtain ⟨hshare, hswap⟩ := hlists _ _ rfl rfl
  have hshared : taggedPage.passes .equal "tags" (.list [.pageRef "a", .list []]) = true :=
    hshare.2 ⟨_, List.mem_cons_self, _, List.mem_cons_self, rfl⟩
  refine ⟨?_, ?_, hnolist rfl, hshared, ?_⟩
  · rw [(hscalar rfl).1]
    rfl
  · refine ((hitems rfl).2 _ rfl).2 ⟨.undefined, ?_, rfl⟩
    exact List.mem_cons_of_mem _ List.mem_cons_self
  · rw [hswap linkingPage rfl, hshared]

end Record

end NoteQuery
