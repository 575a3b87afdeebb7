import NoteQuery.Proofs.ComparisonAgreement
import Mathlib.Data.List.Pairwise

/-!
# Laws of answers

How the answer of a query changes with the query and with the records.

* A further filter thins out an answer without limit and selection, and moves nothing in it
  (`answer_narrowed`). Sorting commutes with every choice of records (`ordered_filter`), because the
  arrangement of the chosen records is unique and the thinned out arrangement is one.
* The order of the filters does not count, and where no two keys tie, that of the records does not
  count either (`answer_of_perm`).
* A query that selects the fields it reads gives its own answer back (`answer_own_rows`): the rows
  of an answer pass each stage of the query unchanged (`IsSettled`).
-/

namespace NoteQuery

namespace Filter

/-- A filter sees its own field only. -/
theorem accepts_congr {f : Filter} {r s : Record} (h : r.field f.field = s.field f.field) :
    f.accepts r = f.accepts s := by
  unfold accepts condition
  cases f.valueCondition with
  | error e => rfl
  | ok holds => exact congrArg holds h

end Filter

namespace Record

variable {fields : List String}

theorem field_project_of_mem (r : Record) {name : String} (h : name ∈ fields) :
    (r.project fields).field name = r.field name := by
  rw [field_project, if_pos h]

/-- A record that has been reduced to some fields is not reduced further. -/
theorem project_project (r : Record) (fields : List String) :
    (r.project fields).project fields = r.project fields := by
  unfold project
  apply congrArg ofList
  apply List.map_congr_left
  intro name hname
  exact congrArg (Prod.mk name) (r.field_project_of_mem hname)

end Record

namespace Query

/-! ## Further filters -/

/-- The query with a further filter. -/
def narrowed (q : Query) (f : Filter) : Query := { q with filters := q.filters ++ [f] }

theorem accepted_narrowed (q : Query) (f : Filter) (records : List Record) :
    (q.narrowed f).accepted records = (q.accepted records).filter f.accepts := by
  unfold accepted narrowed
  rw [List.filter_filter]
  apply List.filter_congr
  intro record _
  rw [List.all_append, List.all_cons, List.all_nil, Bool.and_true, Bool.and_comm]

theorem accepted_filter (q : Query) (p : Record → Bool) (records : List Record) :
    q.accepted (records.filter p) = (q.accepted records).filter p := List.filter_comm ..

/-- What is left of an arrangement is the arrangement of what is left. -/
theorem IsArrangement.filter {q : Query} {accepted arranged : List Record}
    (h : q.IsArrangement accepted arranged) (p : Record → Bool) :
    q.IsArrangement (accepted.filter p) (arranged.filter p) where
  perm := h.perm.filter p
  of_unordered horder := congrArg (List.filter p) (h.of_unordered horder)
  sorted field horder := (h.sorted field horder).sublist List.filter_sublist
  stable field horder record := by
    rw [List.filter_comm, h.stable field horder record, List.filter_comm]

theorem ordered_filter (q : Query) (p : Record → Bool) (records : List Record) :
    q.ordered (records.filter p) = (q.ordered records).filter p :=
  (q.isArrangement_ordered (records.filter p)).unique ((q.isArrangement_ordered records).filter p)

/-- Without limit and selection, the answer is the accepted records in order. -/
theorem answer_eq_ordered {q : Query} (hlimit : q.limit = none) (hselect : q.select = none)
    (hq : ∀ g ∈ q.filters, g.Prepares) (records : List Record) :
    q.answer records = .ok (q.ordered (q.accepted records)) := by
  rw [answer_eq_ok_iff]
  refine ⟨hq, ?_⟩
  simp only [projected, limited, hlimit, hselect]

/-- **Filtering commutes with ordering.** If a query has neither limit nor selection, a further
filter leaves those rows of its answer that the filter accepts, in the order that they have there.
The same rows are the answer of the query on the records that the filter accepts. So a filter adds
no row and moves none, whatever the direction of the order. -/
theorem answer_narrowed {q : Query} (hlimit : q.limit = none) (hselect : q.select = none)
    (hq : ∀ g ∈ q.filters, g.Prepares) {f : Filter} (hf : f.Prepares) (records : List Record) :
    ∃ rows narrowedRows, q.answer records = .ok rows ∧
      (q.narrowed f).answer records = .ok narrowedRows ∧
      narrowedRows = rows.filter f.accepts ∧
      q.answer (records.filter f.accepts) = .ok narrowedRows ∧
      narrowedRows.Sublist rows := by
  have hnarrowed : ∀ g ∈ (q.narrowed f).filters, g.Prepares := by
    intro g hg
    rcases List.mem_append.1 hg with hg | hg
    · exact hq g hg
    · rw [List.mem_singleton.1 hg]
      exact hf
  have hrows : (q.ordered (q.accepted records)).filter f.accepts =
      q.ordered ((q.accepted records).filter f.accepts) :=
    (q.ordered_filter f.accepts _).symm
  refine ⟨q.ordered (q.accepted records), _, answer_eq_ordered hlimit hselect hq records, ?_, rfl,
    ?_, List.filter_sublist⟩
  · rw [hrows, ← accepted_narrowed]
    exact answer_eq_ordered (q := q.narrowed f) hlimit hselect hnarrowed records
  · rw [hrows, ← accepted_filter]
    exact answer_eq_ordered hlimit hselect hq (records.filter f.accepts)

/-- Ranked tasks, the highest rank first. -/
def rankedTasks : Query where
  table := "task"
  filters := [⟨.greater, "rank", .number (Binary64.zero false)⟩]
  orderBy := some "rank"
  descending := true

/-- Four records have a rank; one of them has the name that is filtered out. -/
theorem answer_narrowed_rankedTasks :
    let f : Filter := ⟨.notEqual, "name", .string "third"⟩
    rankedTasks.limit = none ∧ rankedTasks.select = none ∧
      (∀ g ∈ rankedTasks.filters, g.Prepares) ∧ f.Prepares ∧
      ∃ rows narrowedRows, rankedTasks.answer rankedRecords = .ok rows ∧
        (rankedTasks.narrowed f).answer rankedRecords = .ok narrowedRows ∧
        narrowedRows = rows.filter f.accepts ∧
        rankedTasks.answer (rankedRecords.filter f.accepts) = .ok narrowedRows ∧
        narrowedRows.Sublist rows := by
  intro f
  have hq : ∀ g ∈ rankedTasks.filters, g.Prepares := by
    intro g hg
    rw [List.mem_singleton.1 hg]
    exact ⟨_, rfl⟩
  have hf : f.Prepares := ⟨_, rfl⟩
  exact ⟨rfl, rfl, hq, hf, answer_narrowed rfl rfl hq hf rankedRecords⟩

/-! ## Permuted filters and records -/

/-- No two of the records tie in a field. -/
def HasDistinctKeys (field : String) (records : List Record) : Prop :=
  records.Pairwise (fun a b => (a.field field).totalCompare (b.field field) ≠ .eq)

/-- Tied records that stand among records with distinct keys are the same. -/
theorem HasDistinctKeys.eq_of_tied {field : String} {records : List Record}
    (h : HasDistinctKeys field records) {a b : Record} (ha : a ∈ records) (hb : b ∈ records)
    (htie : tied field a b = true) : a = b := by
  have hsymm : Std.Symm fun a b : Record => (a.field field).totalCompare (b.field field) ≠ .eq := by
    constructor
    intro a b hab hba
    exact hab (Std.OrientedCmp.eq_symm hba)
  by_contra hne
  exact h.forall ha hb hne (tied_iff.1 htie)

theorem accepted_of_perm (q : Query) {filters : List Filter} (h : filters.Perm q.filters)
    (records : List Record) :
    ({ q with filters := filters } : Query).accepted records = q.accepted records := by
  unfold accepted
  apply List.filter_congr
  intro record _
  exact h.all_eq

/-- Without ties the sort has no choice. -/
theorem ordered_of_perm {q : Query} {field : String} (horder : q.orderBy = some field)
    {records others : List Record} (hkeys : HasDistinctKeys field records)
    (h : others.Perm records) : q.ordered others = q.ordered records := by
  have hsorted : ∀ l : List Record,
      (q.ordered l).Pairwise (fun a b => inOrder field q.descending a b = true) := by
    intro l
    exact ((q.isArrangement_ordered l).sorted field horder).imp inOrder_iff.2
  have hothers : (q.ordered others).Perm records := (q.isArrangement_ordered others).perm.trans h
  have hrecords : (q.ordered records).Perm records := (q.isArrangement_ordered records).perm
  refine List.Perm.eq_of_pairwise ?_ (hsorted others) (hsorted records)
    (hothers.trans hrecords.symm)
  intro a b ha hb hab hba
  exact hkeys.eq_of_tied (hothers.mem_iff.1 ha) (hrecords.mem_iff.1 hb)
    (tied_iff_inOrder.2 ⟨hab, hba⟩)

/-- The answer depends on the accepted records in order. -/
theorem answer_congr {q : Query} {records others : List Record}
    (h : q.ordered (q.accepted others) = q.ordered (q.accepted records)) :
    q.answer others = q.answer records := by
  cases hconditions : Filter.conditions q.filters with
  | error e =>
    unfold answer
    rw [hconditions]
    rfl
  | ok conditions =>
    have hprepares := Filter.prepares_of_conditions hconditions
    rw [answer_eq_ok_iff.2 ⟨hprepares, rfl⟩, h, ← answer_eq_ok_iff.2 ⟨hprepares, rfl⟩]

/-- **The order of the inputs.** Whether a query has an answer, and which, does not depend on the
order of its filters. Nor does it depend on the order of the records if the query orders them and no
two of the records that its filters accept have equal keys. -/
theorem answer_of_perm (q : Query) (records : List Record) :
    (∀ filters, filters.Perm q.filters → ∀ rows,
      ({ q with filters := filters } : Query).answer records = .ok rows ↔
        q.answer records = .ok rows) ∧
    ∀ field, q.orderBy = some field → HasDistinctKeys field (q.accepted records) →
      ∀ others, others.Perm records → q.answer others = q.answer records := by
  constructor
  · intro filters h rows
    rw [answer_eq_ok_iff, answer_eq_ok_iff, q.accepted_of_perm h]
    apply and_congr_left'
    exact forall_congr' fun f => imp_congr_left h.mem_iff
  · intro field horder hkeys others h
    exact answer_congr (ordered_of_perm horder hkeys (h.filter _))

/-- Ranked tasks, but for two that share their ranks with others. -/
def uniquelyRanked : Query where
  table := "task"
  filters := [⟨.greater, "rank", .number (Binary64.zero false)⟩,
    ⟨.notEqual, "name", .string "third"⟩, ⟨.notEqual, "name", .string "fourth"⟩]
  orderBy := some "rank"
  limit := some 5
  select := some ["name"]

theorem answer_of_perm_uniquelyRanked :
    uniquelyRanked.filters.reverse.Perm uniquelyRanked.filters ∧
      uniquelyRanked.orderBy = some "rank" ∧
      HasDistinctKeys "rank" (uniquelyRanked.accepted rankedRecords) ∧
      (uniquelyRanked.accepted rankedRecords).length = 2 ∧
      rankedRecords.reverse.Perm rankedRecords ∧
      (∀ rows, ({ uniquelyRanked with filters := uniquelyRanked.filters.reverse } : Query).answer
          rankedRecords = .ok rows ↔ uniquelyRanked.answer rankedRecords = .ok rows) ∧
      uniquelyRanked.answer rankedRecords.reverse = uniquelyRanked.answer rankedRecords := by
  have hkeys : HasDistinctKeys "rank" (uniquelyRanked.accepted rankedRecords) := by
    unfold HasDistinctKeys
    decide +kernel
  have htwo : (uniquelyRanked.accepted rankedRecords).length = 2 := by decide +kernel
  have hfilters := uniquelyRanked.filters.reverse_perm
  have hrecords := rankedRecords.reverse_perm
  obtain ⟨hfirst, hsecond⟩ := answer_of_perm uniquelyRanked rankedRecords
  exact ⟨hfilters, rfl, hkeys, htwo, hrecords, hfirst _ hfilters,
    hsecond "rank" rfl hkeys _ hrecords⟩

/-! ## Answers as records -/

/-- A query without selection, or one that selects every field that its filters and its order
read. -/
def SelectsWhatItReads (q : Query) : Prop :=
  ∀ fields, q.select = some fields →
    (∀ f ∈ q.filters, f.field ∈ fields) ∧ ∀ field, q.orderBy = some field → field ∈ fields

/-- Rows in which a query finds nothing to do. -/
structure IsSettled (q : Query) (rows : List Record) : Prop where
  accepted : ∀ row ∈ rows, ∀ f ∈ q.filters, f.accepts row = true
  ordered : ∀ field, q.orderBy = some field →
    rows.Pairwise (fun a b => inOrder field q.descending a b = true)
  limited : ∀ n, q.limit = some n → rows.length ≤ n
  projected : ∀ fields, q.select = some fields → ∀ row ∈ rows, row.project fields = row

/-- Each stage of a query leaves settled rows as they are. -/
theorem IsSettled.answer_eq {q : Query} {rows : List Record} (h : q.IsSettled rows)
    (hq : ∀ f ∈ q.filters, f.Prepares) : q.answer rows = .ok rows := by
  have haccepted : q.accepted rows = rows := by
    unfold Query.accepted
    rw [List.filter_eq_self]
    intro row hrow
    exact List.all_eq_true.2 (h.accepted row hrow)
  have hordered : q.ordered rows = rows := by
    unfold Query.ordered
    cases horder : q.orderBy with
    | none => rfl
    | some field => exact List.mergeSort_of_pairwise (h.ordered field horder)
  have hlimited : q.limited rows = rows := by
    unfold Query.limited
    cases hlimit : q.limit with
    | none => rfl
    | some n => exact List.take_of_length_le (h.limited n hlimit)
  have hprojected : q.projected rows = rows := by
    unfold Query.projected
    cases hselect : q.select with
    | none => rfl
    | some fields =>
      exact (List.map_congr_left (h.projected fields hselect)).trans (List.map_id' rows)
  rw [answer_eq_ok_iff, haccepted, hordered, hlimited, hprojected]
  exact ⟨hq, rfl⟩

/-- Before the selection the rows of an answer are settled for the query without selection. -/
theorem isSettled_limited (q : Query) (records : List Record) :
    ({ q with select := none } : Query).IsSettled (q.limited (q.ordered (q.accepted records))) := by
  have harranged := q.isArrangement_ordered (q.accepted records)
  have htaken : (q.limited (q.ordered (q.accepted records))).Sublist
      (q.ordered (q.accepted records)) := by
    rw [limited_eq_take]
    exact List.take_sublist _ _
  constructor
  · intro row hrow
    have hmem : row ∈ q.accepted records := harranged.perm.mem_iff.1 (htaken.subset hrow)
    exact List.all_eq_true.1 (List.mem_filter.1 hmem).2
  · intro field horder
    exact ((harranged.sorted field horder).sublist htaken).imp inOrder_iff.2
  · intro n hlimit
    have hlimit : q.limit = some n := hlimit
    unfold Query.limited
    rw [hlimit]
    exact List.length_take_le n _
  · intro fields hselect
    cases hselect

/-- Reducing rows to fields that the query reads keeps them settled. -/
theorem IsSettled.map_project {q : Query} {rows : List Record} {fields : List String}
    (h : ({ q with select := none } : Query).IsSettled rows) (hselect : q.select = some fields)
    (hreads : q.SelectsWhatItReads) :
    q.IsSettled (rows.map (fun row => row.project fields)) := by
  obtain ⟨hfilters, horders⟩ := hreads fields hselect
  constructor
  · intro row hrow f hf
    obtain ⟨source, hsource, rfl⟩ := List.mem_map.1 hrow
    rw [Filter.accepts_congr (source.field_project_of_mem (hfilters f hf))]
    exact h.accepted source hsource f hf
  · intro field horder
    rw [List.pairwise_map]
    refine (h.ordered field horder).imp ?_
    intro a b hab
    unfold inOrder at hab ⊢
    rw [a.field_project_of_mem (horders field horder),
      b.field_project_of_mem (horders field horder)]
    exact hab
  · intro n hlimit
    rw [List.length_map]
    exact h.limited n hlimit
  · intro others hothers row hrow
    obtain rfl : fields = others := Option.some.inj (hselect.symm.trans hothers)
    obtain ⟨source, -, rfl⟩ := List.mem_map.1 hrow
    exact source.project_project fields

theorem isSettled_of_answer_eq_ok {q : Query} (hreads : q.SelectsWhatItReads)
    {records rows : List Record} (h : q.answer records = .ok rows) : q.IsSettled rows := by
  obtain ⟨-, rfl⟩ := answer_eq_ok_iff.1 h
  have hlimited := q.isSettled_limited records
  unfold projected
  cases hselect : q.select with
  | none =>
    have heq : ({ q with select := none } : Query) = q := by rw [← hselect]
    exact heq ▸ hlimited
  | some fields => exact hlimited.map_project hselect hreads

/-- **Queries are idempotent.** A query that selects nothing, or at least what its filters and its
order read, gives its own answer back when it is asked of this answer: the same rows in the same
order. -/
theorem answer_own_rows {q : Query} (hreads : q.SelectsWhatItReads) {records rows : List Record}
    (h : q.answer records = .ok rows) : q.answer rows = .ok rows :=
  (isSettled_of_answer_eq_ok hreads h).answer_eq (answer_eq_ok_iff.1 h).1

/-- Names and ranks of the three highest ranked tasks. -/
def rankedNames : Query where
  table := "task"
  filters := [⟨.greater, "rank", .number (Binary64.zero false)⟩, ⟨.isIn, "owner", .list [.null]⟩]
  orderBy := some "rank"
  descending := true
  limit := some 3
  select := some ["name", "rank", "owner", "name"]

/-- No record has an owner; the rows of the answer have one, which is undefined. -/
theorem answer_own_rows_rankedNames :
    rankedNames.SelectsWhatItReads ∧
      ∃ rows, rankedNames.answer rankedRecords = .ok rows ∧ rows.length = 3 ∧
        rankedNames.answer rows = .ok rows := by
  have hreads : rankedNames.SelectsWhatItReads := by
    intro fields hfields
    obtain rfl := Option.some.inj hfields
    refine ⟨by decide +kernel, ?_⟩
    intro field hfield
    obtain rfl := Option.some.inj hfield
    decide
  have hfour : (rankedNames.accepted rankedRecords).length = 4 := by decide +kernel
  refine ⟨hreads, _, rfl, ?_, answer_own_rows hreads rfl⟩
  show ((((rankedNames.accepted rankedRecords).mergeSort _).take 3).map _).length = 3
  rw [List.length_map, List.length_take, List.length_mergeSort, hfour]
  rfl

end Query

end NoteQuery
