import NoteQuery.Proofs.Arrangement

/-!
# Preparing filters once

A query prepares its filters before it looks at a record: a pattern is read once, whatever the
number of records. Here this is compared with an evaluation that prepares nothing (`Filter.kept`):
it takes the records one by one, asks the filters in turn until one rejects the record, and reads
the pattern of a filter each time that it asks the filter.

Where the query has an answer, the two keep the same records. They differ in what fails. The
evaluation record by record can come past a bad filter, since a record that an earlier filter
rejects never gets there. A query with a bad filter fails on any records, even on none, and with the
error of the first bad filter (`answer_eq_kept`).
-/

namespace NoteQuery

namespace Filter

/-! ## Filters that are refused -/

/-- A matching filter is refused if its value has no match text, if that text is too long for a
pattern, or if it is no pattern. No other filter is refused. -/
inductive IsRefused (f : Filter) : EvaluationError → Prop
  | noText (htakes : f.comparison.takesPattern = true) (hvalue : f.value.matchText? = none) :
    IsRefused f (.noPatternText f.field f.comparison.symbol)
  | tooLong (source : String) (htakes : f.comparison.takesPattern = true)
    (hvalue : f.value.matchText? = some source) (hsize : maxPatternBytes < source.utf8ByteSize) :
    IsRefused f (.invalidPattern source f.field .tooLong)
  | malformed (source : String) (htakes : f.comparison.takesPattern = true)
    (hvalue : f.value.matchText? = some source) (hsize : source.utf8ByteSize ≤ maxPatternBytes)
    (hpattern : Pattern.ofText? source = none) :
    IsRefused f (.invalidPattern source f.field .malformed)

/-- The first of some filters that is refused is refused with an error. -/
def FirstRefusal (filters : List Filter) (e : EvaluationError) : Prop :=
  ∃ before f after, filters = before ++ f :: after ∧ f.IsRefused e ∧
    ∀ g ∈ before, ∀ e', ¬ g.IsRefused e'

theorem pattern_eq_error_iff {f : Filter} {e : EvaluationError}
    (htakes : f.comparison.takesPattern = true) : f.pattern = .error e ↔ f.IsRefused e := by
  rw [pattern]
  constructor
  · intro h
    cases hvalue : f.value.matchText? with
    | none =>
      rw [hvalue] at h
      obtain rfl := Except.error.inj h
      exact .noText htakes hvalue
    | some source =>
      rw [hvalue] at h
      dsimp only at h
      rw [Pattern.ofSource] at h
      split at h
      · rename_i hsize
        obtain rfl := Except.error.inj h
        exact .tooLong source htakes hvalue hsize
      · rename_i hsize
        split at h
        · rename_i hpattern
          obtain rfl := Except.error.inj h
          exact .malformed source htakes hvalue (Nat.le_of_not_lt hsize) hpattern
        · cases h
  · intro h
    cases h with
    | noText _ hvalue => rw [hvalue]
    | tooLong source _ hvalue hsize =>
      rw [hvalue]
      dsimp only
      rw [Pattern.ofSource, if_pos hsize]
      rfl
    | malformed source _ hvalue hsize hpattern =>
      rw [hvalue]
      dsimp only
      rw [Pattern.ofSource, if_neg (Nat.not_lt.2 hsize), hpattern]
      rfl

theorem not_isRefused {f : Filter} (h : f.comparison.takesPattern = false) (e : EvaluationError) :
    ¬ f.IsRefused e := by
  rintro (⟨htakes, -⟩ | ⟨_, htakes, -, -⟩ | ⟨_, htakes, -, -, -⟩) <;> simp [h] at htakes

theorem condition_eq_error_iff {f : Filter} {e : EvaluationError} :
    f.condition = .error e ↔ f.IsRefused e := by
  rw [condition, map_eq_error_iff, valueCondition]
  cases hcomparison : f.comparison with
  | matching | notMatching =>
    have htakes : f.comparison.takesPattern = true := by rw [hcomparison]; rfl
    dsimp only
    rw [map_eq_error_iff, pattern_eq_error_iff htakes]
  | equal | notEqual | less | lessOrEqual | greater | greaterOrEqual | isIn =>
    have htakes : f.comparison.takesPattern = false := by rw [hcomparison]; rfl
    simp [not_isRefused htakes e]

theorem prepares_iff {f : Filter} : f.Prepares ↔ ∀ e, ¬ f.IsRefused e := by
  simp only [Prepares, ← condition_eq_error_iff]
  cases f.condition <;> simp

theorem firstRefusal_cons {f : Filter} {filters : List Filter} {e : EvaluationError} :
    FirstRefusal (f :: filters) e ↔ f.IsRefused e ∨ f.Prepares ∧ FirstRefusal filters e := by
  rw [prepares_iff]
  constructor
  · rintro ⟨before, g, after, hsplit, hg, hbefore⟩
    rcases List.cons_eq_append_iff.1 hsplit with ⟨rfl, hfirst⟩ | ⟨before', rfl, hrest⟩
    · obtain ⟨rfl, -⟩ := List.cons.inj hfirst
      exact .inl hg
    · obtain ⟨hf, hbefore'⟩ := List.forall_mem_cons.1 hbefore
      exact .inr ⟨hf, before', g, after, hrest, hg, hbefore'⟩
  · rintro (hf | ⟨hf, before, g, after, rfl, hg, hbefore⟩)
    · exact ⟨[], f, filters, rfl, hf, by simp⟩
    · exact ⟨f :: before, g, after, rfl, hg, List.forall_mem_cons.2 ⟨hf, hbefore⟩⟩

/-- If a filter is refused, one is the first. -/
theorem exists_firstRefusal {filters : List Filter} :
    (∃ e, FirstRefusal filters e) ↔ ∃ f ∈ filters, ∃ e, f.IsRefused e := by
  induction filters with
  | nil => simp [FirstRefusal]
  | cons f filters ih =>
    simp only [firstRefusal_cons, exists_or, exists_and_left, ih, List.exists_mem_cons_iff]
    have hprepares : f.Prepares ∨ ∃ e, f.IsRefused e := by
      rw [prepares_iff, ← not_exists]
      exact (Classical.em _).symm
    tauto

/-- Preparing filters fails with the error of the first one that is refused. -/
theorem conditions_eq_error_iff {filters : List Filter} {e : EvaluationError} :
    conditions filters = .error e ↔ FirstRefusal filters e := by
  induction filters with
  | nil => simp [conditions, FirstRefusal]
  | cons f filters ih =>
    rw [firstRefusal_cons, ← condition_eq_error_iff, conditions]
    cases hf : f.condition with
    | error e' =>
      have hprepares : ¬ f.Prepares := by simp [Prepares, hf]
      simp [hprepares, bind, Except.bind]
    | ok holds =>
      have hprepares : f.Prepares := ⟨holds, hf⟩
      rw [← ih]
      cases conditions filters <;> simp [hprepares, bind, Except.bind, pure, Except.pure]

/-! ## Evaluation without preparation -/

/-- Whether the pattern of a filter, read anew, occurs in the match text of a value. It occurs in no
value without match text. -/
def occursAnew (f : Filter) (field : Value) : Except EvaluationError Bool := do
  let p ← f.pattern
  match field.matchText? with
  | none => return false
  | some text => return p.occursIn text

/-- Whether a filter accepts a record. -/
def acceptsAnew (f : Filter) (record : Record) : Except EvaluationError Bool :=
  let field := record.field f.field
  match f.comparison with
  | .equal => .ok (field.meets f.value)
  | .notEqual => .ok (!field.looseEq f.value)
  | .less => .ok (field.isBelow f.value)
  | .lessOrEqual => .ok (field.isAtMost f.value)
  | .greater => .ok (field.isAbove f.value)
  | .greaterOrEqual => .ok (field.isAtLeast f.value)
  | .matching => f.occursAnew field
  | .notMatching => (f.occursAnew field).map not
  | .isIn => .ok (f.value.contains field)

/-- Whether all filters accept a record. They are asked in turn, up to the first one that rejects
it. -/
def allAccept : List Filter → Record → Except EvaluationError Bool
  | [], _ => .ok true
  | f :: filters, record => do
    if ← f.acceptsAnew record then allAccept filters record else return false

/-- The records that all filters accept. -/
def kept (filters : List Filter) : List Record → Except EvaluationError (List Record)
  | [] => .ok []
  | record :: records => do
    let accepted ← allAccept filters record
    let others ← kept filters records
    return if accepted then record :: others else others

theorem occursAnew_of_pattern {f : Filter} {p : Pattern} (h : f.pattern = .ok p) (field : Value) :
    f.occursAnew field = .ok (field.holdsPattern p) := by
  rw [occursAnew, h, Value.holdsPattern]
  show (match field.matchText? with
    | none => Except.ok false
    | some text => Except.ok (p.occursIn text)) = _
  cases field.matchText? <;> rfl

theorem acceptsAnew_of_prepares {f : Filter} (h : f.Prepares) (record : Record) :
    f.acceptsAnew record = .ok (f.accepts record) := by
  obtain ⟨holds, hcondition⟩ := h
  rw [accepts, hcondition]
  obtain ⟨holdsOf, hvalue, rfl⟩ := exists_of_map hcondition
  rw [valueCondition] at hvalue
  rw [acceptsAnew]
  cases hcomparison : f.comparison with
  | matching =>
    rw [hcomparison] at hvalue
    obtain ⟨p, hpattern, rfl⟩ := exists_of_map hvalue
    exact occursAnew_of_pattern hpattern _
  | notMatching =>
    rw [hcomparison] at hvalue
    obtain ⟨p, hpattern, rfl⟩ := exists_of_map hvalue
    dsimp only
    rw [occursAnew_of_pattern hpattern]
    rfl
  | equal | notEqual | less | lessOrEqual | greater | greaterOrEqual | isIn =>
    rw [hcomparison] at hvalue
    obtain rfl := Except.ok.inj hvalue
    rfl

theorem allAccept_of_prepares {filters : List Filter} (h : ∀ f ∈ filters, f.Prepares)
    (record : Record) : allAccept filters record = .ok (filters.all (·.accepts record)) := by
  induction filters with
  | nil => rfl
  | cons f filters ih =>
    obtain ⟨hf, hfilters⟩ := List.forall_mem_cons.1 h
    rw [allAccept, acceptsAnew_of_prepares hf, ih hfilters, List.all_cons]
    cases f.accepts record <;> rfl

theorem kept_of_prepares {filters : List Filter} (h : ∀ f ∈ filters, f.Prepares)
    (records : List Record) :
    kept filters records = .ok (records.filter (fun record => filters.all (·.accepts record))) := by
  induction records with
  | nil => rfl
  | cons record records ih =>
    rw [kept, allAccept_of_prepares h, ih, List.filter_cons]
    rfl

end Filter

namespace Query

theorem answer_eq_error_iff {q : Query} {records : List Record} {e : EvaluationError} :
    q.answer records = .error e ↔ Filter.FirstRefusal q.filters e := by
  rw [← Filter.conditions_eq_error_iff, answer]
  cases Filter.conditions q.filters <;> simp [bind, Except.bind, pure, Except.pure]

/-- Whether the answer of a query fails depends on its filters alone, and so does the error: it is
that of the first filter that is refused. If the query has an answer, this is made of the records
that are kept by an evaluation that reads the pattern of a filter anew for each record. -/
theorem answer_eq_kept (q : Query) (records : List Record) :
    ((∃ e, q.answer records = .error e) ↔ ∃ f ∈ q.filters, ∃ e, f.IsRefused e) ∧
      (∀ e, q.answer records = .error e ↔ Filter.FirstRefusal q.filters e) ∧
      ∀ answered, q.answer records = .ok answered →
        ∃ kept, Filter.kept q.filters records = .ok kept ∧
          answered = q.projected (q.limited (q.ordered kept)) := by
  refine ⟨?_, fun e => answer_eq_error_iff, fun answered h => ?_⟩
  · simp only [answer_eq_error_iff, Filter.exists_firstRefusal]
  · have hprepares : ∀ f ∈ q.filters, f.Prepares := by
      intro f hf
      rw [Filter.prepares_iff]
      intro e he
      obtain ⟨e', he'⟩ := Filter.exists_firstRefusal.2 ⟨f, hf, e, he⟩
      have herror : q.answer records = .error e' := answer_eq_error_iff.2 he'
      rw [h] at herror
      cases herror
    refine ⟨q.accepted records, Filter.kept_of_prepares hprepares records, ?_⟩
    obtain ⟨conditions, hc, hall⟩ := Filter.conditions_of_prepares hprepares
    rw [answer, hc] at h
    rw [accepted, ← funext hall]
    exact (Except.ok.inj h).symm

/-- Tasks that are not done and have a name, which is not empty. -/
def namedTasks : Query where
  table := "task"
  filters := [⟨.notEqual, "done", .bool true⟩, ⟨.matching, "name", .string "^"⟩,
    ⟨.notMatching, "name", .string "^$"⟩]

theorem answer_eq_kept_namedTasks :
    let records := [[("name", .string "a")], [("name", .string "")], [("name", .map [])], [],
      [("name", .string "b"), ("done", .bool true)]].map Record.ofList
    ∃ answered, namedTasks.answer records = .ok answered ∧ answered.length = 1 ∧
      ∃ kept, Filter.kept namedTasks.filters records = .ok kept ∧
        answered = namedTasks.projected (namedTasks.limited (namedTasks.ordered kept)) := by
  intro records
  have hone : (namedTasks.answer records).toOption.map List.length = some 1 := by decide +kernel
  cases hanswer : namedTasks.answer records with
  | error e =>
    rw [hanswer] at hone
    cases hone
  | ok answered =>
    rw [hanswer] at hone
    exact ⟨answered, rfl, Option.some.inj hone,
      (answer_eq_kept namedTasks records).2.2 answered hanswer⟩

/-- The bad filter is never asked, since the first one rejects the only record. -/
example :
    let q : Query := {
      table := "task"
      filters := [⟨.equal, "done", .bool true⟩, ⟨.matching, "name", .string "("⟩] }
    let records := [Record.ofList [("name", .string "a")]]
    (Filter.kept q.filters records).isOk = true ∧ (q.answer records).isOk = false := by
  decide +kernel

end Query

end NoteQuery
