import NoteQuery.Proofs.ComparisonAgreement
import NoteQuery.Proofs.EqualityFilters

/-!
# The filters `<`, `<=`, `>` and `>=`

These filters ask for an outcome of `Value.compare?`, while `=` and `!=` go through loose equality.
For the pairs that have an outcome (`Value.Comparable`) all six are read off that one outcome
(`Comparison.relates_of_compare?`), which gives the trichotomy of `<`, `=` and `>`; for all other
pairs the four ordering filters accept nothing. Exchanging the two values reverses the outcome
(`Value.compare?_swap`), and `<` is transitive (`Value.compare?_lt_trans`).
-/

namespace NoteQuery

namespace Value

/-! ## Comparable values -/

/-- Two numbers that are no NaN, two booleans or two texts, be they strings or page references. -/
inductive Comparable : Value → Value → Prop
  | numbers {x y : Binary64} (hx : x.isNaN = false) (hy : y.isNaN = false) :
    Comparable (number x) (number y)
  | bools (a b : Bool) : Comparable (bool a) (bool b)
  | texts {v w : Value} {s t : String} (hv : v.text? = some s) (hw : w.text? = some t) :
    Comparable v w

variable {u v w : Value}

theorem compare?_of_texts {s t : String} (hv : v.text? = some s) (hw : w.text? = some t) :
    v.compare? w = some (compare s t) := by
  cases v <;> cases hv <;> cases w <;> cases hw <;> rfl

theorem looseEq_of_texts {s t : String} (hv : v.text? = some s) (hw : w.text? = some t) :
    v.looseEq w = (s == t) := by
  cases v <;> cases hv <;> cases w <;> cases hw <;> rfl

/-- The outcomes of a comparison exist for comparable values and for no others. -/
theorem comparable_iff : v.Comparable w ↔ ∃ order, v.compare? w = some order := by
  constructor
  · rintro (⟨hx, hy⟩ | ⟨a, b⟩ | ⟨hv, hw⟩)
    · exact ⟨_, Binary64.compare?_eq_some_iff.2 ⟨hx, hy, rfl⟩⟩
    · exact ⟨_, rfl⟩
    · exact ⟨_, compare?_of_texts hv hw⟩
  · rintro ⟨order, h⟩
    cases v with
    | number x =>
      cases w with
      | number y =>
        obtain ⟨hx, hy, -⟩ := Binary64.compare?_eq_some_iff.1 h
        exact .numbers hx hy
      | _ => cases h
    | bool a =>
      cases w with
      | bool b => exact .bools a b
      | _ => cases h
    | string s | pageRef s =>
      cases w with
      | string t | pageRef t => exact .texts rfl rfl
      | _ => cases h
    | undefined | null | list _ | map _ => cases w <;> cases h

theorem Comparable.list?_eq_none (h : v.Comparable w) : v.list? = none := by
  cases h with
  | numbers | bools => rfl
  | texts hv => cases v <;> cases hv <;> rfl

/-! ## Laws of the comparison -/

private theorem beq_eq_isEq_compare {α : Type} [Ord α] [Std.LawfulEqOrd α] [BEq α] [LawfulBEq α]
    (a b : α) : (a == b) = (compare a b).isEq := by
  rw [Bool.eq_iff_iff, beq_iff_eq, Ordering.isEq_iff_eq_eq, Std.LawfulEqOrd.compare_eq_iff_eq]

/-- Comparable values are loosely equal exactly if the comparison finds them equal. -/
theorem looseEq_of_compare? {order : Ordering} (h : v.compare? w = some order) :
    v.looseEq w = order.isEq := by
  cases comparable_iff.2 ⟨order, h⟩ with
  | numbers hx hy =>
    obtain ⟨-, -, rfl⟩ := Binary64.compare?_eq_some_iff.1 h
    rw [looseEq, Binary64.numericEq, hx, hy, beq_eq_isEq_compare]
    rfl
  | bools a b =>
    obtain rfl := Option.some.inj h
    exact beq_eq_isEq_compare a b
  | texts hv hw =>
    obtain rfl := Option.some.inj ((compare?_of_texts hv hw).symm.trans h)
    rw [looseEq_of_texts hv hw, beq_eq_isEq_compare]

/-- Exchanging two values reverses the outcome, if there is one. -/
theorem compare?_swap (v w : Value) : w.compare? v = (v.compare? w).map Ordering.swap := by
  cases v with
  | number x =>
    cases w with
    | number y =>
      rw [compare?, compare?, Binary64.compare?, Binary64.compare?, Bool.or_comm]
      split
      · rfl
      · exact congrArg some Std.OrientedOrd.eq_swap
    | _ => rfl
  | bool _ | string _ | pageRef _ =>
    cases w <;> first | rfl | exact congrArg some Std.OrientedOrd.eq_swap
  | undefined | null | list _ | map _ => cases w <;> rfl

theorem compare?_lt_trans (huv : u.compare? v = some .lt) (hvw : v.compare? w = some .lt) :
    u.compare? w = some .lt := by
  -- the value in the middle has one kind, which the two others share
  cases comparable_iff.2 ⟨_, huv⟩ with
  | numbers =>
    cases comparable_iff.2 ⟨_, hvw⟩ with
    | numbers =>
      obtain ⟨hx, -, hxy⟩ := Binary64.compare?_eq_some_iff.1 huv
      obtain ⟨-, hz, hyz⟩ := Binary64.compare?_eq_some_iff.1 hvw
      exact Binary64.compare?_eq_some_iff.2 ⟨hx, hz, Std.TransCmp.lt_trans hxy hyz⟩
    | texts hy => cases hy
  | bools a b =>
    cases comparable_iff.2 ⟨_, hvw⟩ with
    | bools _ c =>
      exact congrArg some (Std.TransCmp.lt_trans (Option.some.inj huv) (Option.some.inj hvw))
    | texts hb => cases hb
  | texts hu hv =>
    cases comparable_iff.2 ⟨_, hvw⟩ with
    | numbers | bools => cases hv
    | texts hv' hw =>
      obtain rfl := Option.some.inj (hv.symm.trans hv')
      rw [compare?_of_texts hu hv] at huv
      rw [compare?_of_texts hv hw] at hvw
      rw [compare?_of_texts hu hw]
      exact congrArg some (Std.TransCmp.lt_trans (Option.some.inj huv) (Option.some.inj hvw))

end Value

namespace Comparison

/-- Whether the comparison asks for an order of two values. -/
def isOrdering : Comparison → Bool
  | less | lessOrEqual | greater | greaterOrEqual => true
  | _ => false

/-- The comparison that says the same with the two values exchanged. -/
def converse : Comparison → Comparison
  | less => greater
  | lessOrEqual => greaterOrEqual
  | greater => less
  | greaterOrEqual => lessOrEqual
  | c => c

/-- The outcomes that a comparison accepts of two comparable values. -/
def admits : Comparison → Ordering → Bool
  | equal, order => order.isEq
  | notEqual, order => order.isNe
  | less, order => order.isLT
  | lessOrEqual, order => order.isLE
  | greater, order => order.isGT
  | greaterOrEqual, order => order.isGE
  | matching, _ | notMatching, _ | isIn, _ => false

theorem existsUnique_admits (order : Ordering) :
    ∃! c, c ∈ [less, equal, greater] ∧ c.admits order = true := by
  cases order with
  | lt => exact ⟨less, by decide, fun c => by cases c <;> decide⟩
  | eq => exact ⟨equal, by decide, fun c => by cases c <;> decide⟩
  | gt => exact ⟨greater, by decide, fun c => by cases c <;> decide⟩

variable {c : Comparison} {v w : Value}

/-! ## What the filters make of an outcome -/

theorem takesPattern_of_isOrdering (hc : c.isOrdering = true) : c.takesPattern = false := by
  cases c <;> first | rfl | cases hc

/-- An ordering filter accepts a pair if there is an outcome and the filter admits it. -/
theorem relates_of_isOrdering (hc : c.isOrdering = true) (v w : Value) :
    c.relates v w = (v.compare? w).any c.admits := by
  cases c with
  | less | lessOrEqual | greater | greaterOrEqual =>
    rw [relates]
    simp only [Value.isBelow, Value.isAtMost, Value.isAbove, Value.isAtLeast]
    cases v.compare? w with
    | none => rfl
    | some order => cases order <;> rfl
  | equal | notEqual | matching | notMatching | isIn => cases hc

/-- Where there is an outcome, it decides `=` and `!=` as well. -/
theorem relates_of_compare? {order : Ordering} (h : v.compare? w = some order)
    (hc : c.takesPattern = false) (hin : c ≠ isIn) : c.relates v w = c.admits order := by
  cases c with
  | equal =>
    have hscalar : v.list? = none := (Value.comparable_iff.2 ⟨order, h⟩).list?_eq_none
    rw [relates, Value.meets_of_list?_eq_none hscalar, Value.looseEq_of_compare? h, admits]
  | notEqual =>
    rw [relates, Value.looseEq_of_compare? h, admits]
    cases order <;> rfl
  | less | lessOrEqual | greater | greaterOrEqual =>
    rw [relates_of_isOrdering rfl, h, Option.any_some]
  | matching | notMatching => cases hc
  | isIn => exact absurd rfl hin

theorem isOrdering_converse (c : Comparison) : c.converse.isOrdering = c.isOrdering := by
  cases c <;> rfl

theorem admits_converse (c : Comparison) (order : Ordering) :
    c.converse.admits order.swap = c.admits order := by
  cases c <;> cases order <;> rfl

theorem relates_converse (hc : c.isOrdering = true) (v w : Value) :
    c.converse.relates w v = c.relates v w := by
  have hconverse : c.converse.isOrdering = true := c.isOrdering_converse.trans hc
  rw [relates_of_isOrdering hconverse, relates_of_isOrdering hc, Value.compare?_swap v w]
  cases v.compare? w with
  | none => rfl
  | some order => exact c.admits_converse order

end Comparison

namespace Record

variable (r : Record) (field : String) {operand : Value}

theorem passes_of_compare? {order : Ordering} (h : (r.field field).compare? operand = some order)
    {c : Comparison} (hc : c.takesPattern = false) (hin : c ≠ .isIn) :
    r.passes c field operand = c.admits order := by
  rw [passes_eq_relates hc, Comparison.relates_of_compare? h hc hin]

theorem existsUnique_passes (h : (r.field field).Comparable operand) :
    ∃! c, c ∈ [Comparison.less, .equal, .greater] ∧ r.passes c field operand = true := by
  obtain ⟨order, horder⟩ := Value.comparable_iff.1 h
  apply (existsUnique_congr fun c => ?_).2 (Comparison.existsUnique_admits order)
  refine and_congr_right fun hc => ?_
  have hplain : c.takesPattern = false ∧ c ≠ .isIn := by
    revert c
    decide
  rw [passes_of_compare? r field horder hplain.1 hplain.2]

theorem passes_of_not_comparable (h : ¬ (r.field field).Comparable operand) {c : Comparison}
    (hc : c.isOrdering = true) : r.passes c field operand = false := by
  have hnone : (r.field field).compare? operand = none := by
    rw [Option.eq_none_iff_forall_ne_some]
    exact fun order horder => h (Value.comparable_iff.2 ⟨order, horder⟩)
  rw [passes_eq_relates (Comparison.takesPattern_of_isOrdering hc),
    Comparison.relates_of_isOrdering hc, hnone, Option.any_none]

/-- **Laws of the ordering filters.** Filters without a pattern can always be prepared. If a field
and a value are comparable, the record passes exactly one of `<`, `=` and `>`, and these decide the
other three. If they are not, it passes no ordering filter. Exchanging field and value exchanges `<`
with `>` and `<=` with `>=`, and `<` is transitive. -/
theorem passes_ordering_laws (operand : Value) :
    (∀ c : Comparison, c.takesPattern = false → (Filter.mk c field operand).Prepares) ∧
    ((r.field field).Comparable operand →
      (∃! c, c ∈ [Comparison.less, .equal, .greater] ∧ r.passes c field operand = true) ∧
      r.passes .lessOrEqual field operand =
        (r.passes .less field operand || r.passes .equal field operand) ∧
      r.passes .greaterOrEqual field operand =
        (r.passes .greater field operand || r.passes .equal field operand) ∧
      r.passes .notEqual field operand = !r.passes .equal field operand) ∧
    (¬ (r.field field).Comparable operand →
      ∀ c : Comparison, c.isOrdering = true → r.passes c field operand = false) ∧
    ∀ s : Record, s.field field = operand →
      (∀ c : Comparison, c.isOrdering = true →
        s.passes c.converse field (r.field field) = r.passes c field operand) ∧
      ∀ bound : Value, r.passes .less field operand = true → s.passes .less field bound = true →
        r.passes .less field bound = true := by
  refine ⟨fun c hc => ⟨_, Filter.condition_of_not_takesPattern hc⟩, ?_,
    fun h c => r.passes_of_not_comparable field h, ?_⟩
  · intro hcomparable
    refine ⟨r.existsUnique_passes field hcomparable, ?_⟩
    obtain ⟨order, horder⟩ := Value.comparable_iff.1 hcomparable
    have hpasses : ∀ c : Comparison, c.takesPattern = false → c ≠ .isIn →
        r.passes c field operand = c.admits order :=
      fun c => r.passes_of_compare? field horder
    rw [hpasses .less rfl nofun, hpasses .lessOrEqual rfl nofun, hpasses .equal rfl nofun,
      hpasses .notEqual rfl nofun, hpasses .greater rfl nofun, hpasses .greaterOrEqual rfl nofun]
    cases order <;> decide
  · rintro s rfl
    refine ⟨fun c hc => ?_, fun bound => ?_⟩
    · have hconverse : c.converse.isOrdering = true := c.isOrdering_converse.trans hc
      rw [passes_eq_relates (Comparison.takesPattern_of_isOrdering hconverse),
        passes_eq_relates (Comparison.takesPattern_of_isOrdering hc),
        Comparison.relates_converse hc]
    · rw [passes_less_iff, passes_less_iff, passes_less_iff]
      exact Value.compare?_lt_trans

/-- A page with nothing but a name. -/
def namedPage (name : Value) : Record := ofList [("name", name)]

/-- A link and strings as names, and a NaN in the place of one. -/
theorem passes_ordering_laws_namedPage :
    (∃! c, c ∈ [Comparison.less, .equal, .greater] ∧
        (namedPage (.pageRef "a")).passes c "name" (.string "b") = true) ∧
      (namedPage (.number (.nan false))).passes .lessOrEqual "name" (.number (.nan false)) = false ∧
      (namedPage (.string "b")).passes .greater "name" (.pageRef "a") = true ∧
      (namedPage (.pageRef "a")).passes .less "name" (.string "c") = true := by
  have hless : (namedPage (.pageRef "a")).passes .less "name" (.string "b") = true := by
    decide +kernel
  have hbound : (namedPage (.string "b")).passes .less "name" (.string "c") = true := by
    decide +kernel
  have hnan : ¬ (Value.number (.nan false)).Comparable (.number (.nan false)) := by
    rintro (⟨hx, -⟩ | - | ⟨hv, -⟩)
    · exact absurd hx (by decide)
    · cases hv
  obtain ⟨-, hone, -, hother⟩ :=
    passes_ordering_laws (namedPage (.pageRef "a")) "name" (.string "b")
  obtain ⟨-, -, hnone, -⟩ :=
    passes_ordering_laws (namedPage (.number (.nan false))) "name" (.number (.nan false))
  obtain ⟨hswap, hchain⟩ := hother (namedPage (.string "b")) rfl
  refine ⟨(hone (.texts rfl rfl)).1, hnone hnan .lessOrEqual rfl, ?_, hchain _ hless hbound⟩
  exact (hswap .less rfl).trans hless

end Record

end NoteQuery
