import NoteQuery.Proofs.InsertionOrder
import NoteQuery.Proofs.TotalOrder
import Mathlib.Data.List.Basic

/-!
# What an answer consists of

The answer of a query is cut from one list: the accepted records in the order that the query asks
for. `IsArrangement` says what that list is without sorting anything, and there is exactly one such
list (`isArrangement_ordered`, `IsArrangement.unique`):

* it holds the accepted records, each as often as the input;
* its keys follow the order of the field, downwards if the query says so;
* records with equal keys stand in their input order, in both directions.

The rows are cut from the front of it, and they are reduced to the selected fields if the query
selects any (`IsProjection`). `answer_eq_cut_arrangement` puts filtering, ordering, limit and
projection together.
-/

namespace NoteQuery

/-! ## Accepted records -/

namespace Filter

/-- A filter that can be prepared. -/
def Prepares (f : Filter) : Prop := ∃ holds, f.condition = .ok holds

/-- Whether a filter can be prepared and accepts a record. -/
def accepts (f : Filter) (record : Record) : Bool :=
  match f.condition with
  | .ok holds => holds record
  | .error _ => false

/-- Filters that can each be prepared are prepared together, and their conditions hold of the
records that every filter accepts. -/
theorem conditions_of_prepares {filters : List Filter} (h : ∀ f ∈ filters, f.Prepares) :
    ∃ conditions, Filter.conditions filters = .ok conditions ∧
      ∀ record : Record, record.meetsAll conditions = filters.all (·.accepts record) := by
  induction filters with
  | nil => exact ⟨[], rfl, fun _ => rfl⟩
  | cons f fs ih =>
    obtain ⟨holds, hf⟩ := h f (List.mem_cons_self ..)
    obtain ⟨rest, hrest, hall⟩ := ih (fun g hg => h g (List.mem_cons_of_mem f hg))
    refine ⟨holds :: rest, ?_, ?_⟩
    · rw [Filter.conditions, hf, hrest]
      rfl
    · intro record
      have htail := hall record
      simp only [Record.meetsAll] at htail ⊢
      rw [List.all_cons, List.all_cons, htail, accepts, hf]

/-- Filters that are prepared together can each be prepared. -/
theorem prepares_of_conditions {filters : List Filter} {conditions : List (Record → Bool)}
    (h : Filter.conditions filters = .ok conditions) : ∀ f ∈ filters, f.Prepares := by
  induction filters generalizing conditions with
  | nil => exact fun f hf => absurd hf List.not_mem_nil
  | cons f fs ih =>
    rw [Filter.conditions] at h
    obtain ⟨holds, hf, h⟩ := exists_of_bind h
    obtain ⟨rest, hrest, -⟩ := exists_of_bind h
    exact List.forall_mem_cons.2 ⟨⟨holds, hf⟩, ih hrest⟩

end Filter

namespace Query

/-- The records that every filter of a query accepts, in input order. -/
def accepted (q : Query) (records : List Record) : List Record :=
  records.filter (fun record => q.filters.all (·.accepts record))

/-- How many of `count` records the limit leaves. -/
def countLimited (q : Query) (count : ℕ) : ℕ :=
  match q.limit with
  | none => count
  | some n => min n count

theorem limited_eq_take (q : Query) (records : List Record) :
    q.limited records = records.take (q.countLimited records.length) := by
  unfold limited countLimited
  cases q.limit with
  | none => exact (List.take_length).symm
  | some n => exact List.take_eq_take_min

/-! ## The order of the records -/

/-- Whether two records have equal values of a field in the sort order. -/
def tied (field : String) (a b : Record) : Bool :=
  (a.field field).totalCompare (b.field field) == .eq

/-- `arranged` holds the records of `accepted` in the order that a query asks for. -/
structure IsArrangement (q : Query) (accepted arranged : List Record) : Prop where
  perm : arranged.Perm accepted
  of_unordered : q.orderBy = none → arranged = accepted
  /-- The keys never step down, or never step up when the larger ones come first. -/
  sorted : ∀ field, q.orderBy = some field → arranged.Pairwise (fun a b =>
    if q.descending then (a.field field).totalCompare (b.field field) ≠ .lt
    else (a.field field).totalCompare (b.field field) ≠ .gt)
  /-- The records whose key equals that of a given record stand in their input order. -/
  stable : ∀ field, q.orderBy = some field → ∀ record,
    arranged.filter (tied field record) = accepted.filter (tied field record)

variable {field : String} {descending : Bool} {a b : Record}

theorem tied_iff : tied field a b = true ↔ (a.field field).totalCompare (b.field field) = .eq := by
  simp [tied]

theorem inOrder_iff : inOrder field descending a b = true ↔
    if descending then (a.field field).totalCompare (b.field field) ≠ .lt
    else (a.field field).totalCompare (b.field field) ≠ .gt := by
  unfold inOrder
  cases descending <;> simp [Ordering.isGE, Ordering.isLE] <;>
    cases (a.field field).totalCompare (b.field field) <;> simp

theorem inOrder_trans (field : String) (descending : Bool) (a b c : Record)
    (hab : inOrder field descending a b = true) (hbc : inOrder field descending b c = true) :
    inOrder field descending a c = true := by
  unfold inOrder at *
  cases descending
  · exact Std.TransCmp.isLE_trans hab hbc
  · exact Std.TransCmp.isGE_trans hab hbc

theorem inOrder_total (field : String) (descending : Bool) (a b : Record) :
    (inOrder field descending a b || inOrder field descending b a) = true := by
  unfold inOrder
  rw [Value.totalCompare_swap (b.field field) (a.field field)]
  cases descending <;> cases (a.field field).totalCompare (b.field field) <;> rfl

/-- Records that may come before each other in either order are tied, and only these. -/
theorem tied_iff_inOrder : tied field a b = true ↔
    inOrder field descending a b = true ∧ inOrder field descending b a = true := by
  rw [tied_iff]
  unfold inOrder
  rw [Value.totalCompare_swap (b.field field) (a.field field)]
  cases descending <;> cases (a.field field).totalCompare (b.field field) <;> simp

/-! ## There is one arrangement -/

/-- Two lists of the same records that are both in order, and in which tied records stand in the
same order, are equal. The induction is on the lists in step: their heads are tied with each other,
so each is the first of the same class of tied records. -/
private theorem eq_of_sorted_of_stable {xs ys : List Record} (hperm : xs.Perm ys)
    (hx : xs.Pairwise (fun a b => inOrder field descending a b = true))
    (hy : ys.Pairwise (fun a b => inOrder field descending a b = true))
    (hties : ∀ record, xs.filter (tied field record) = ys.filter (tied field record)) :
    xs = ys := by
  induction xs generalizing ys with
  | nil => exact (hperm.symm.eq_nil).symm
  | cons x xs ih =>
    cases ys with
    | nil => exact absurd hperm.eq_nil (List.cons_ne_nil x xs)
    | cons y ys =>
      have hrefl : ∀ r, inOrder field descending r r = true := by
        intro r
        simpa using inOrder_total field descending r r
      have hself : ∀ r, tied field r r = true := fun r => tied_iff_inOrder.2 ⟨hrefl r, hrefl r⟩
      rw [List.pairwise_cons] at hx hy
      -- each head stands in the other list, so the two are tied
      have hxy : inOrder field descending x y = true := by
        have hmem : y ∈ x :: xs := hperm.mem_iff.2 (List.mem_cons_self ..)
        rcases List.mem_cons.1 hmem with rfl | hmem
        · exact hrefl y
        · exact hx.1 y hmem
      have hyx : inOrder field descending y x = true := by
        have hmem : x ∈ y :: ys := hperm.mem_iff.1 (List.mem_cons_self ..)
        rcases List.mem_cons.1 hmem with rfl | hmem
        · exact hrefl x
        · exact hy.1 x hmem
      have htie : tied field x y = true := tied_iff_inOrder.2 ⟨hxy, hyx⟩
      -- tied heads are both the first of the records tied with `x`
      have hhead := hties x
      rw [List.filter_cons_of_pos (hself x), List.filter_cons_of_pos htie] at hhead
      obtain ⟨rfl, -⟩ := List.cons.inj hhead
      congr 1
      refine ih (List.perm_cons x |>.1 hperm) hx.2 hy.2 (fun record => ?_)
      have hrecord := hties record
      rw [List.filter_cons, List.filter_cons] at hrecord
      split at hrecord
      · exact (List.cons.inj hrecord).2
      · exact hrecord

theorem IsArrangement.unique {q : Query} {accepted xs ys : List Record}
    (hx : q.IsArrangement accepted xs) (hy : q.IsArrangement accepted ys) : xs = ys := by
  cases horder : q.orderBy with
  | none => rw [hx.of_unordered horder, hy.of_unordered horder]
  | some field =>
    refine eq_of_sorted_of_stable (hx.perm.trans hy.perm.symm)
      ((hx.sorted field horder).imp inOrder_iff.2) ((hy.sorted field horder).imp inOrder_iff.2)
      (fun record => ?_)
    rw [hx.stable field horder, hy.stable field horder]

/-- Records that are tied with one record are tied with each other, so a sort leaves them alone. -/
private theorem filter_tied_mergeSort (record : Record) (records : List Record) :
    (records.mergeSort (inOrder field descending)).filter (tied field record) =
      records.filter (tied field record) := by
  have hpairs : (records.filter (tied field record)).Pairwise
      (fun a b => inOrder field descending a b = true) := by
    refine List.pairwise_of_forall_mem_list (fun a ha b hb => ?_)
    have ha := (List.mem_filter.1 ha).2
    have hb := (List.mem_filter.1 hb).2
    have hab : tied field a b = true := by
      rw [tied_iff] at ha hb ⊢
      exact Std.TransCmp.eq_trans (Std.OrientedCmp.eq_symm ha) hb
    exact (tied_iff_inOrder.1 hab).1
  have hsub := List.sublist_mergeSort (inOrder_trans field descending)
    (inOrder_total field descending) hpairs (List.filter_sublist (l := records))
  have hsub := hsub.filter (tied field record)
  rw [List.filter_filter, funext (fun r => Bool.and_self (tied field record r))] at hsub
  refine (hsub.eq_of_length ?_).symm
  exact ((List.mergeSort_perm records _).filter _).length_eq.symm

theorem isArrangement_ordered (q : Query) (records : List Record) :
    q.IsArrangement records (q.ordered records) := by
  cases horder : q.orderBy with
  | none =>
    have heq : q.ordered records = records := by simp [ordered, horder]
    rw [heq]
    exact ⟨List.Perm.refl _, fun _ => rfl, fun field h => by simp [horder] at h,
      fun field h => by simp [horder] at h⟩
  | some field =>
    have heq : q.ordered records = records.mergeSort (inOrder field q.descending) := by
      simp [ordered, horder]
    rw [heq]
    refine ⟨List.mergeSort_perm _ _, fun h => by simp [horder] at h, fun field' h => ?_,
      fun field' h => ?_⟩
    all_goals
      obtain rfl : field = field' := by simpa [horder] using h
    · exact (List.pairwise_mergeSort (inOrder_trans field q.descending)
        (inOrder_total field q.descending) records).imp inOrder_iff.1
    · exact fun record => filter_tied_mergeSort record records

/-! ## Rows -/

/-- Rows are the records that a query selects from: each of them reduced to the selected fields, or
all of them as they are. -/
structure IsProjection (q : Query) (sources rows : List Record) : Prop where
  of_unselected : q.select = none → rows = sources
  of_selected : ∀ fields, q.select = some fields →
    List.Forall₂ (Record.IsReduced fields) sources rows

theorem isProjection_projected (q : Query) (sources : List Record) :
    q.IsProjection sources (q.projected sources) where
  of_unselected hselect := by simp [projected, hselect]
  of_selected fields hselect := by
    have heq : q.projected sources = sources.map (fun source => source.project fields) := by
      simp [projected, hselect]
    rw [heq]
    exact Record.forall₂_isReduced fields sources

theorem IsProjection.unique {q : Query} {sources rows others : List Record}
    (h : q.IsProjection sources rows) (h' : q.IsProjection sources others) : rows = others := by
  cases hselect : q.select with
  | none => rw [h.of_unselected hselect, h'.of_unselected hselect]
  | some fields =>
    have hreduced : Relator.RightUnique (Record.IsReduced fields) :=
      fun _ _ _ hrow hother => hrow.unique hother
    exact hreduced.forall₂ (h.of_selected fields hselect) (h'.of_selected fields hselect)

/-! ## The answer -/

/-- A query has an answer exactly if each of its filters can be prepared, whatever the records. -/
theorem answer_eq_ok_iff {q : Query} {records rows : List Record} :
    q.answer records = .ok rows ↔ (∀ f ∈ q.filters, f.Prepares) ∧
      rows = q.projected (q.limited (q.ordered (q.accepted records))) := by
  have hanswer : (∀ f ∈ q.filters, f.Prepares) → q.answer records =
      .ok (q.projected (q.limited (q.ordered (q.accepted records)))) := by
    intro h
    obtain ⟨conditions, hconditions, hall⟩ := Filter.conditions_of_prepares h
    rw [answer, hconditions, accepted, ← funext hall]
    rfl
  constructor
  · intro h
    have hprepares : ∀ f ∈ q.filters, f.Prepares := by
      rw [answer] at h
      obtain ⟨conditions, hconditions, -⟩ := exists_of_bind h
      exact Filter.prepares_of_conditions hconditions
    exact ⟨hprepares, Except.ok.inj (h.symm.trans (hanswer hprepares))⟩
  · intro h
    rw [hanswer h.1, h.2]

/-- The answer is cut from the one arrangement of the accepted records, from the front and as long
as the limit allows. Its rows are the one projection of the cut: each record reduced to the selected
fields, or as it is if no fields are selected. -/
theorem answer_eq_cut_arrangement (q : Query) (records : List Record)
    (h : ∀ f ∈ q.filters, f.Prepares) :
    ∃ arranged rows, q.IsArrangement (q.accepted records) arranged ∧
      (∀ other, q.IsArrangement (q.accepted records) other → other = arranged) ∧
      (∀ others, q.IsProjection
          (arranged.take (q.countLimited (q.accepted records).length)) others ↔ others = rows) ∧
      q.answer records = .ok rows := by
  have harr := q.isArrangement_ordered (q.accepted records)
  have hcut : q.limited (q.ordered (q.accepted records)) =
      (q.ordered (q.accepted records)).take (q.countLimited (q.accepted records).length) := by
    rw [limited_eq_take, harr.perm.length_eq]
  have hproj := q.isProjection_projected (q.limited (q.ordered (q.accepted records)))
  refine ⟨_, _, harr, fun other hother => hother.unique harr, fun others => ?_,
    answer_eq_ok_iff.2 ⟨h, rfl⟩⟩
  rw [← hcut]
  constructor
  · exact fun hothers => hothers.unique hproj
  · rintro rfl
    exact hproj

/-- Four ranked records, the ranks in pairs, and one without a rank. -/
def rankedRecords : List Record :=
  [("first", some 1), ("second", some 2), ("unranked", none), ("third", some 1),
    ("fourth", some 2)].map
    (fun (name, rank) => Record.ofList (("name", .string name) ::
      (rank.map (fun n : Int => ("rank", Value.number (Binary64.ofInt n)))).toList))

/-- The three highest ranks, by name. -/
def highestRanked : Query where
  table := "task"
  filters := [⟨.greater, "rank", .number (Binary64.zero false)⟩]
  orderBy := some "rank"
  descending := true
  limit := some 3
  select := some ["name"]

theorem answer_eq_cut_arrangement_highestRanked :
    (∀ f ∈ highestRanked.filters, f.Prepares) ∧
      ∃ arranged rows,
        highestRanked.IsArrangement (highestRanked.accepted rankedRecords) arranged ∧
        (∀ other, highestRanked.IsArrangement (highestRanked.accepted rankedRecords) other →
          other = arranged) ∧
        (∀ others, highestRanked.IsProjection (arranged.take
            (highestRanked.countLimited (highestRanked.accepted rankedRecords).length)) others ↔
          others = rows) ∧
        highestRanked.answer rankedRecords = .ok rows := by
  have h : ∀ f ∈ highestRanked.filters, f.Prepares := by
    intro f hf
    obtain rfl := List.mem_singleton.1 hf
    exact ⟨_, rfl⟩
  exact ⟨h, answer_eq_cut_arrangement highestRanked rankedRecords h⟩

end Query

end NoteQuery
