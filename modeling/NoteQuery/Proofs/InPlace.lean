import NoteQuery.Proofs.Placement
import NoteQuery.Proofs.Reevaluation

/-!
# Evaluation in place

Evaluation puts new texts in the place of the query bodies and keeps every byte around them
(`Replaced`). What it puts in the place of a body, and what it says has become of the query, is
decided by the query alone, for a record source and a renderer (`evaluateText_inPlace`): it shows
the answer (`Shows`), or it names the step that failed (`FailsWith`).
-/

namespace NoteQuery

open Text

/-! ## Texts in the place of ranges -/

/-- Of two fronts of a text that have as many bytes, each is the other one. -/
theorem Text.append_inj_of_byteSize {front tail front' tail' : List Char}
    (heq : front ++ tail = front' ++ tail') (hsize : byteSize front = byteSize front') :
    front = front' ∧ tail = tail' := by
  obtain ⟨between, rfl, rfl⟩ := exists_of_byteSize_le heq (Nat.le_of_eq hsize)
  have hnil : between = [] := by
    by_contra hne
    have hpos := byteSize_pos hne
    rw [byteSize_append] at hsize
    omega
  subst hnil
  exact ⟨(List.append_nil front).symm, rfl⟩

/-- New texts stand in the place of ranges of bytes, which come one behind the other. Everything
between them is kept. The text begins at a byte offset. -/
inductive Replaced : Nat → List (ByteRange × List Char) → List Char → List Char → Prop
  | kept (offset : Nat) (cs : List Char) : Replaced offset [] cs cs
  | range {offset : Nat} {range : ByteRange} {new : List Char}
    {edits : List (ByteRange × List Char)}
    {gap old cs out : List Char} (hstart : range.start = offset + byteSize gap)
    (hstop : range.stop = range.start + byteSize old) (hrest : Replaced range.stop edits cs out) :
    Replaced offset ((range, new) :: edits) (gap ++ (old ++ cs)) (gap ++ (new ++ out))

namespace Replaced

variable {offset : Nat} {edits : List (ByteRange × List Char)} {cs out : List Char}

/-- More text in front of the ranges is kept. -/
theorem append_left {front : List Char} (h : Replaced (offset + byteSize front) edits cs out) :
    Replaced offset edits (front ++ cs) (front ++ out) := by
  cases h with
  | kept => exact .kept offset (front ++ cs)
  | @range _ range new edits gap old cs out hstart hstop hrest =>
    have hgap : range.start = offset + byteSize (front ++ gap) := by
      rw [hstart, byteSize_append, Nat.add_assoc]
    rw [← List.append_assoc front gap, ← List.append_assoc front gap]
    exact .range hgap hstop hrest

/-- The ranges and the new texts decide the result. -/
theorem unique {out' : List Char} (h : Replaced offset edits cs out)
    (h' : Replaced offset edits cs out') : out = out' := by
  induction h generalizing out' with
  | kept offset cs =>
    cases h'
    rfl
  | @range offset range new edits gap old cs out hstart hstop hrest ih =>
    generalize hcs : gap ++ (old ++ cs) = whole at h'
    cases h' with
    | @range _ _ _ _ gap' old' cs' out'' hstart' hstop' hrest' =>
      -- the range says how long the gap and the old text are, so the text is cut in one way only
      have hgap : byteSize gap = byteSize gap' := by omega
      have hold : byteSize old = byteSize old' := by omega
      obtain ⟨hgap, htail⟩ := append_inj_of_byteSize hcs hgap
      obtain ⟨-, hrest⟩ := append_inj_of_byteSize htail hold
      subst hrest
      rw [hgap, ih hrest']

end Replaced

/-! ## Evaluation -/

namespace Document

/-- The query directives of a document that starts at a byte offset. -/
def queriesFrom (offset : Nat) (document : Document) : List PlacedDirective :=
  (placedFrom offset document).filter (fun d => d.directive.isQuery)

/-- The query directives of a text at their places, in order. -/
def queryPlaces (text : String) : List PlacedDirective := queriesFrom 0 (ofText text)

theorem queriesFrom_directive_of_isQuery {d : Directive} (hquery : d.isQuery = true) (offset : Nat)
    (document : Document) :
    queriesFrom offset (.directive d :: document) =
      ⟨d, offset⟩ :: queriesFrom (offset + byteSize d.toList) document := by
  rw [queriesFrom, placedFrom, List.filter_cons, if_pos hquery]
  rfl

theorem queriesFrom_directive_of_not_isQuery {d : Directive} (hquery : ¬ d.isQuery = true)
    (offset : Nat) (document : Document) :
    queriesFrom offset (.directive d :: document) =
      queriesFrom (offset + byteSize d.toList) document := by
  rw [queriesFrom, placedFrom, List.filter_cons, if_neg hquery]
  rfl

end Document

namespace Query

variable {q : Query} (rows : List Record)

theorem shown_of_render_eq {template : String} (h : q.render = some template) (render : Renderer) :
    q.shown (some render) rows = (render template rows).mapError .render := by
  simp [shown, h]

theorem shown_of_plain {renderer : Option Renderer} (h : q.render = none ∨ renderer = none) :
    q.shown renderer rows = .ok (resultTable rows) := by
  rcases h with h | h <;> simp [shown, h]

end Query

open Document

namespace RecordSource

variable (source : RecordSource) (renderer : Option Renderer)

/-- What evaluation puts in the place of a directive's body: what is shown for its query, on lines
of its own. -/
def bodyEdit (d : PlacedDirective) : ByteRange × List Char :=
  let shown := (source.answerDirective renderer d.directive.queryText).1
  (d.body, '\n' :: (shown.toList ++ ['\n']))

/-- Evaluation keeps a document up to its query bodies. -/
theorem replaced_evaluate (offset : Nat) (document : Document) :
    Replaced offset ((queriesFrom offset document).map (source.bodyEdit renderer))
      document.toList (source.evaluate renderer document).document.toList := by
  rw [document_evaluate]
  induction document generalizing offset with
  | nil => exact .kept offset []
  | cons piece document ih =>
    rw [List.map_cons, toList_cons, toList_cons]
    cases piece with
    | text cs => exact (ih (offset + byteSize cs)).append_left
    | directive d =>
      have hrest := ih (offset + byteSize d.toList)
      rw [evaluatePiece_directive]
      by_cases hquery : d.isQuery = true
      · -- the gap ends with the start marker, and what follows the range begins with the end marker
        have hstop := PlacedDirective.span_stop ⟨d, offset⟩
        rw [← hstop] at hrest
        rw [queriesFrom_directive_of_isQuery hquery, List.map_cons, evaluateDirective,
          if_pos hquery, toList_exchange_append d d.body, toList_exchange_append, ← hstop]
        exact .range rfl rfl hrest.append_left
      · rw [queriesFrom_directive_of_not_isQuery hquery, evaluateDirective, if_neg hquery]
        exact hrest.append_left

/-- The outcomes of a document are those of its query directives, in order. -/
theorem outcomes_evaluate (offset : Nat) (document : Document) :
    (source.evaluate renderer document).outcomes =
      (queriesFrom offset document).map
        (fun d => (source.answerDirective renderer d.directive.queryText).2) := by
  simp only [evaluate, List.filterMap_map]
  induction document generalizing offset with
  | nil => rfl
  | cons piece document ih =>
    cases piece with
    | text cs => exact ih (offset + byteSize cs)
    | directive d =>
      have hrest := ih (offset + byteSize d.toList)
      by_cases hquery : d.isQuery = true
      · rw [queriesFrom_directive_of_isQuery hquery, List.map_cons, ← hrest, List.filterMap_cons,
          Function.comp_apply, evaluatePiece_of_isQuery source renderer hquery]
      · rw [queriesFrom_directive_of_not_isQuery hquery, ← hrest, List.filterMap_cons,
          Function.comp_apply, evaluatePiece, if_neg hquery]

/-- What is written for a query, and what becomes of it. -/
theorem answerDirective_cases (queryText : String) :
    (∃ shown count, source.shownAnswer renderer queryText = .ok (shown, count) ∧
      source.answerDirective renderer queryText = (shown, ⟨queryText, .ok count⟩)) ∨
    ∃ e, source.shownAnswer renderer queryText = .error e ∧
      source.answerDirective renderer queryText =
        ("**Error:** " ++ e.message, ⟨queryText, .error e⟩) := by
  unfold answerDirective
  cases source.shownAnswer renderer queryText with
  | ok answer => exact .inl ⟨answer.1, answer.2, rfl, rfl⟩
  | error e => exact .inr ⟨e, rfl, rfl⟩

/-! ## What a query shows -/

section

variable (queryText : String)

/-- The query that a text spells, and the rows of its answer. -/
structure HasRows (q : Query) (rows : List Record) : Prop where
  ofText_eq : Query.ofText queryText = .ok q
  answer_eq : ∃ records, source q.table = some records ∧ q.answer records = .ok rows

/-- What is shown for a query, and its number of rows: what the renderer makes of its template and
the rows, or their table if one of the two is not there. -/
inductive Shows : String → Nat → Prop
  | rendered {q : Query} {rows : List Record} {template shown : String} {render : Renderer}
    (hrows : source.HasRows queryText q rows) (htemplate : q.render = some template)
    (hrenderer : renderer = some render) (hshown : render template rows = .ok shown) :
    Shows shown rows.length
  | table {q : Query} {rows : List Record} (hrows : source.HasRows queryText q rows)
    (hplain : q.render = none ∨ renderer = none) : Shows (resultTable rows) rows.length

/-- What keeps a query from being shown, and its message: the text is no query, its table is not
known, one of its filters cannot be prepared, or the renderer refuses the rows. -/
inductive FailsWith : DirectiveError → String → Prop
  | unread {cause : ParseError} (hread : Query.ofText queryText = .error cause) :
    FailsWith (.query (.parse cause)) ("Parse error: " ++ cause.message)
  | unknownTable {q : Query} (hread : Query.ofText queryText = .ok q)
    (htable : source q.table = none) :
    FailsWith (.query (.tableNotFound q.table)) ("Table not found: " ++ q.table)
  | unanswered {q : Query} {records : List Record} {cause : EvaluationError}
    (hread : Query.ofText queryText = .ok q) (htable : source q.table = some records)
    (hanswer : q.answer records = .error cause) :
    FailsWith (.query (.evaluation cause)) ("Evaluation error: " ++ cause.message)
  | unrendered {q : Query} {rows : List Record} {template text : String} {render : Renderer}
    (hrows : source.HasRows queryText q rows) (htemplate : q.render = some template)
    (hrenderer : renderer = some render) (hrefused : render template rows = .error text) :
    FailsWith (.render text) ("Render error: " ++ text)

variable {source renderer queryText}

theorem shownAnswer_of_hasRows {q : Query} {rows : List Record}
    (h : source.HasRows queryText q rows) :
    source.shownAnswer renderer queryText =
      (q.shown renderer rows).map (fun shown => (shown, rows.length)) := by
  obtain ⟨hread, records, htable, hanswer⟩ := h
  simp only [shownAnswer, answer, hread, htable, hanswer, Except.mapError, ok_bind]
  rfl

theorem Shows.shownAnswer_eq {shown : String} {count : Nat}
    (h : source.Shows renderer queryText shown count) :
    source.shownAnswer renderer queryText = .ok (shown, count) := by
  cases h with
  | rendered hrows htemplate hrenderer hshown =>
    rw [shownAnswer_of_hasRows hrows, hrenderer, Query.shown_of_render_eq _ htemplate, hshown]
    rfl
  | table hrows hplain =>
    rw [shownAnswer_of_hasRows hrows, Query.shown_of_plain _ hplain]
    rfl

theorem FailsWith.shownAnswer_eq {e : DirectiveError} {message : String}
    (h : source.FailsWith renderer queryText e message) :
    source.shownAnswer renderer queryText = .error e := by
  cases h with
  | unread hread =>
    rw [shownAnswer, hread]
    rfl
  | unknownTable hread htable =>
    simp only [shownAnswer, answer, hread, htable, Except.mapError, ok_bind]
    rfl
  | unanswered hread htable hanswer =>
    simp only [shownAnswer, answer, hread, htable, hanswer, Except.mapError, ok_bind]
    rfl
  | unrendered hrows htemplate hrenderer hrefused =>
    rw [shownAnswer_of_hasRows hrows, hrenderer, Query.shown_of_render_eq _ htemplate, hrefused]
    rfl

theorem FailsWith.message_eq {e : DirectiveError} {message : String}
    (h : source.FailsWith renderer queryText e message) : message = e.message := by
  cases h <;> rfl

variable (source renderer queryText) in
/-- A query is shown or it fails: one step after the other is made or keeps the query from being
shown. -/
theorem shows_or_failsWith :
    (∃ shown count, source.Shows renderer queryText shown count) ∨
      ∃ e message, source.FailsWith renderer queryText e message := by
  cases hread : Query.ofText queryText with
  | error cause => exact .inr ⟨_, _, .unread hread⟩
  | ok q =>
    cases htable : source q.table with
    | none => exact .inr ⟨_, _, .unknownTable hread htable⟩
    | some records =>
      cases hanswer : q.answer records with
      | error cause => exact .inr ⟨_, _, .unanswered hread htable hanswer⟩
      | ok rows =>
        have hrows : source.HasRows queryText q rows := ⟨hread, records, htable, hanswer⟩
        cases htemplate : q.render with
        | none => exact .inl ⟨_, _, .table hrows (.inl htemplate)⟩
        | some template =>
          cases renderer with
          | none => exact .inl ⟨_, _, .table hrows (.inr rfl)⟩
          | some render =>
            cases hshown : render template rows with
            | ok shown => exact .inl ⟨_, _, .rendered hrows htemplate rfl hshown⟩
            | error text => exact .inr ⟨_, _, .unrendered hrows htemplate rfl hshown⟩

theorem shows_iff {shown : String} {count : Nat} :
    source.Shows renderer queryText shown count ↔
      source.shownAnswer renderer queryText = .ok (shown, count) := by
  refine ⟨Shows.shownAnswer_eq, fun h => ?_⟩
  rcases source.shows_or_failsWith renderer queryText with ⟨_, _, hshows⟩ | ⟨_, _, hfails⟩
  · rw [hshows.shownAnswer_eq] at h
    cases h
    exact hshows
  · rw [hfails.shownAnswer_eq] at h
    cases h

theorem failsWith_iff {e : DirectiveError} {message : String} :
    source.FailsWith renderer queryText e message ↔
      source.shownAnswer renderer queryText = .error e ∧ message = e.message := by
  refine ⟨fun h => ⟨h.shownAnswer_eq, h.message_eq⟩, ?_⟩
  rintro ⟨h, rfl⟩
  rcases source.shows_or_failsWith renderer queryText with ⟨_, _, hshows⟩ | ⟨_, _, hfails⟩
  · rw [hshows.shownAnswer_eq] at h
    cases h
  · rw [hfails.shownAnswer_eq] at h
    cases h
    exact hfails.message_eq ▸ hfails

end

/-- Whether a query has no answer to show. -/
def fails (queryText : String) : Bool := !(source.shownAnswer renderer queryText).isOk

theorem isFailure_answerDirective (queryText : String) :
    (source.answerDirective renderer queryText).2.isFailure = source.fails renderer queryText := by
  unfold fails
  rcases source.answerDirective_cases renderer queryText with
    ⟨shown, count, hok, heq⟩ | ⟨e, herr, heq⟩
  · rw [heq, hok]
    rfl
  · rw [heq, herr]
    rfl

theorem replaced_evaluateText (text : String) :
    Replaced 0 ((queryPlaces text).map (source.bodyEdit renderer)) text.toList
      (source.evaluateText renderer text).text.toList := by
  have htext : (ofText text).toList = text.toList := toList_ofList text.toList
  have hreplaced := source.replaced_evaluate renderer 0 (ofText text)
  rw [htext] at hreplaced
  rw [Evaluation.text, toText, String.toList_ofList]
  exact hreplaced

/-- Failures are queries that have no answer to show. -/
theorem failures_evaluateText (text : String) :
    (source.evaluateText renderer text).failures = (queryPlaces text).countP
      (fun d => source.fails renderer d.directive.queryText) := by
  -- the outcomes are a map over the query directives, so they are counted there
  have hfails : Outcome.isFailure ∘
      (fun d : PlacedDirective => (source.answerDirective renderer d.directive.queryText).2) =
      fun d => source.fails renderer d.directive.queryText :=
    funext (fun d => source.isFailure_answerDirective renderer d.directive.queryText)
  unfold Evaluation.failures evaluateText
  rw [source.outcomes_evaluate renderer 0 (ofText text), List.countP_map, hfails]
  rfl

/-- The evaluated text is the text with new bodies in its query directives and nothing else changed.
What is shown for a directive and what it says has become of the query are those of the query by
itself: its answer, or its error, which is shown and reported alike. The answer is the rendered text
or the table of the rows, and there is none exactly if the query cannot be read, its table is not
known, it cannot be evaluated or the renderer refuses the rows. The failures are the queries that
have an error. -/
theorem evaluateText_inPlace (text : String) :
    (∀ out, Replaced 0 ((queryPlaces text).map (source.bodyEdit renderer)) text.toList out ↔
      out = (source.evaluateText renderer text).text.toList) ∧
    (source.evaluateText renderer text).outcomes = (queryPlaces text).map
      (fun d => (source.answerDirective renderer d.directive.queryText).2) ∧
    (∀ queryText,
      (∃ shown count, source.shownAnswer renderer queryText = .ok (shown, count) ∧
        source.answerDirective renderer queryText = (shown, ⟨queryText, .ok count⟩)) ∨
      ∃ e, source.shownAnswer renderer queryText = .error e ∧
        source.answerDirective renderer queryText =
          ("**Error:** " ++ e.message, ⟨queryText, .error e⟩)) ∧
    (∀ queryText shown count, source.Shows renderer queryText shown count ↔
      source.shownAnswer renderer queryText = .ok (shown, count)) ∧
    (∀ queryText e message, source.FailsWith renderer queryText e message ↔
      source.shownAnswer renderer queryText = .error e ∧ message = e.message) ∧
    (source.evaluateText renderer text).failures = (queryPlaces text).countP
      (fun d => source.fails renderer d.directive.queryText) := by
  have hreplaced := source.replaced_evaluateText renderer text
  have houtcomes := source.outcomes_evaluate renderer 0 (ofText text)
  refine ⟨fun out => ⟨fun h => ?_, ?_⟩, houtcomes, source.answerDirective_cases renderer,
    fun _ _ _ => shows_iff, fun _ _ _ => failsWith_iff, source.failures_evaluateText renderer text⟩
  · exact h.unique hreplaced
  · rintro rfl
    exact hreplaced

end RecordSource

end NoteQuery
