import NoteQuery.Document.Basic
import NoteQuery.Document.ResultTable
import NoteQuery.Query.Answer

/-! # Evaluating documents

A directive named `query` has a query as its arguments. Evaluation puts the answer of each query
between the markers of its directive, on lines of their own. A query that fails leaves its error
there and does not keep the others from being answered.
-/

namespace NoteQuery

open NoteQuery.Unicode

/-- Shows records with a template, or says why it cannot. -/
abbrev Renderer := String → List Record → Except String String

/-- Why a query directive has no result. -/
inductive DirectiveError where
  | query (cause : QueryError)
  /-- The renderer's own words. -/
  | render (text : String)

/-- Wording of a directive's error. -/
def DirectiveError.message : DirectiveError → String
  | query cause => cause.message
  | render text => "Render error: " ++ text

/-- What became of one query directive. -/
structure Outcome where
  /-- The query, without white space around it. -/
  query : String
  /-- Number of records, or the error. -/
  result : Except DirectiveError Nat

/-- Whether a query directive failed. -/
def Outcome.isFailure (o : Outcome) : Bool :=
  match o.result with
  | .ok _ => false
  | .error _ => true

/-- A document whose queries have been answered. -/
structure Evaluation where
  document : Document
  /-- What became of the query directives, in order. -/
  outcomes : List Outcome

namespace Evaluation

/-- The evaluated document as a text. -/
def text (e : Evaluation) : String := e.document.toText

/-- Number of failed query directives. -/
def failures (e : Evaluation) : Nat := e.outcomes.countP Outcome.isFailure

end Evaluation

/-- Name of the directives that hold a query. -/
def queryName : List Char := "query".toList

/-- Whether a directive holds a query. -/
def Directive.isQuery (d : Directive) : Bool := d.name == queryName

/-- The query that a directive holds. -/
def Directive.queryText (d : Directive) : String := String.ofList (trim d.args)

/-- Records as a query wants them shown: with its template if there is a renderer, else as a
table. -/
def Query.shown (q : Query) (renderer : Option Renderer) (records : List Record) :
    Except DirectiveError String :=
  match q.render, renderer with
  | some template, some render => (render template records).mapError .render
  | _, _ => .ok (resultTable records)

namespace RecordSource

/-- The answer of a query as it is shown, and its number of records. -/
def shownAnswer (source : RecordSource) (renderer : Option Renderer) (queryText : String) :
    Except DirectiveError (String × Nat) := do
  let q ← ((Query.ofText queryText).mapError QueryError.parse).mapError .query
  let records ← (source.answer q).mapError .query
  let shown ← q.shown renderer records
  return (shown, records.length)

/-- What a directive's query leaves between the markers, and what became of it. -/
def answerDirective (source : RecordSource) (renderer : Option Renderer) (queryText : String) :
    String × Outcome :=
  match source.shownAnswer renderer queryText with
  | .ok (shown, count) => (shown, ⟨queryText, .ok count⟩)
  | .error e => ("**Error:** " ++ e.message, ⟨queryText, .error e⟩)

/-- A piece after evaluation, and what became of its query if it has one. -/
def evaluatePiece (source : RecordSource) (renderer : Option Renderer) :
    Piece → Piece × Option Outcome
  | .text cs => (.text cs, none)
  | .directive d =>
    if d.isQuery then
      let (shown, outcome) := source.answerDirective renderer d.queryText
      (.directive { d with body := '\n' :: (shown.toList ++ ['\n']) }, some outcome)
    else (.directive d, none)

/-- Answers the queries of a document. -/
def evaluate (source : RecordSource) (renderer : Option Renderer) (document : Document) :
    Evaluation :=
  let evaluated := document.map (source.evaluatePiece renderer)
  { document := evaluated.map (·.1), outcomes := evaluated.filterMap (·.2) }

/-- Answers the queries of a text. -/
def evaluateText (source : RecordSource) (renderer : Option Renderer) (text : String) :
    Evaluation :=
  source.evaluate renderer (Document.ofText text)

end RecordSource

/-- Answers the queries of a text on tables. -/
def Tables.evaluateText (tables : Tables) (renderer : Option Renderer) (text : String) :
    Evaluation :=
  tables.source.evaluateText renderer text

end NoteQuery
