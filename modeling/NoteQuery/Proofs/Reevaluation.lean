import NoteQuery.Proofs.StaleBodies
import Mathlib.Data.List.Forall2

/-!
# Evaluating again

The evaluation of a document does not look at the bodies of its query directives. So it is the same
for every document that differs in such bodies only, and evaluating a result once more changes
nothing, as long as no new body opens a comment.
-/

namespace NoteQuery

namespace Document

instance : DecidablePred OpensNone := fun cs => inferInstanceAs (Decidable (¬ commentStart <:+: cs))

end Document

namespace RecordSource

open Document

variable (source : RecordSource) (renderer : Option Renderer)

theorem evaluatePiece_of_isQuery {d : Directive} (hquery : d.isQuery = true) :
    source.evaluatePiece renderer (.directive d) =
      (.directive { d with
        body := '\n' :: ((source.answerDirective renderer d.queryText).1.toList ++ ['\n']) },
        some (source.answerDirective renderer d.queryText).2) := by
  simp [evaluatePiece, hquery]

/-- The body that a query leaves does not depend on the one that was there. -/
theorem evaluatePiece_of_exchanged {allowed : List Char → Prop} {piece other : Piece}
    (h : Exchanged allowed piece other) :
    source.evaluatePiece renderer other = source.evaluatePiece renderer piece := by
  cases h with
  | same => rfl
  | @body d body hquery hbody =>
    have hquery' : Directive.isQuery { d with body } = true := hquery
    rw [evaluatePiece_of_isQuery source renderer hquery,
      evaluatePiece_of_isQuery source renderer hquery']
    rfl

theorem evaluate_of_exchanged {allowed : List Char → Prop} {document other : Document}
    (h : List.Forall₂ (Exchanged allowed) document other) :
    source.evaluate renderer other = source.evaluate renderer document := by
  have hpieces : other.map (source.evaluatePiece renderer) =
      document.map (source.evaluatePiece renderer) := by
    induction h with
    | nil => rfl
    | cons hpiece hrest ih =>
      rw [List.map_cons, List.map_cons, ih, evaluatePiece_of_exchanged source renderer hpiece]
  unfold evaluate
  rw [hpieces]

/-- A text whose query bodies have been exchanged has the same evaluation. -/
theorem evaluateText_toText {text : String} {document : Document}
    (h : SameButBodies (ofText text) document) :
    source.evaluateText renderer document.toText = source.evaluateText renderer text := by
  have hcut : ofText document.toText = document := by
    unfold ofText toText
    rw [String.toList_ofList]
    exact ofList_toList_of_sameButBodies h
  unfold evaluateText
  rw [hcut]
  exact evaluate_of_exchanged source renderer h

/-- What a query leaves between the markers of its directive, without the line breaks around it. -/
def shownText (d : Directive) : List Char := (source.answerDirective renderer d.queryText).1.toList

/-- A directive after evaluation. -/
def evaluateDirective (d : Directive) : Directive :=
  if d.isQuery then { d with body := '\n' :: (source.shownText renderer d ++ ['\n']) } else d

theorem evaluatePiece_directive (d : Directive) :
    (source.evaluatePiece renderer (.directive d)).1 =
      .directive (source.evaluateDirective renderer d) := by
  unfold evaluateDirective
  by_cases hquery : d.isQuery = true
  · rw [evaluatePiece_of_isQuery source renderer hquery, if_pos hquery]
    rfl
  · simp [evaluatePiece, hquery]

@[simp] theorem isQuery_evaluateDirective (d : Directive) :
    (source.evaluateDirective renderer d).isQuery = d.isQuery := by
  unfold evaluateDirective
  split <;> rfl

theorem document_evaluate (document : Document) :
    (source.evaluate renderer document).document =
      document.map (fun piece => (source.evaluatePiece renderer piece).1) := by
  simp [evaluate]

/-- Evaluation changes the bodies of directives only. -/
theorem directives_evaluate (document : Document) :
    (source.evaluate renderer document).document.directives =
      document.directives.map (source.evaluateDirective renderer) := by
  rw [document_evaluate]
  induction document with
  | nil => rfl
  | cons piece document ih =>
    cases piece with
    | text cs => exact ih
    | directive d =>
      rw [List.map_cons, evaluatePiece_directive]
      exact congrArg (source.evaluateDirective renderer d :: ·) ih

/-- Evaluation exchanges query bodies. -/
theorem exchanged_evaluate {allowed : List Char → Prop} (document : Document)
    (hbodies : ∀ d ∈ (source.evaluate renderer document).document.directives, d.isQuery = true →
      allowed d.body) :
    List.Forall₂ (Exchanged allowed) document (source.evaluate renderer document).document := by
  rw [directives_evaluate] at hbodies
  rw [document_evaluate, List.forall₂_map_right_iff, List.forall₂_same]
  intro piece hmem
  cases piece with
  | text cs => exact .same _
  | directive d =>
    have hmem : d ∈ document.directives := mem_directives_iff.2 hmem
    have hbody := hbodies _ (List.mem_map_of_mem hmem)
    rw [evaluatePiece_directive]
    rw [isQuery_evaluateDirective] at hbody
    unfold evaluateDirective at hbody ⊢
    by_cases hquery : d.isQuery = true
    · rw [if_pos hquery] at hbody ⊢
      exact .body hquery (hbody hquery)
    · rw [if_neg hquery]
      exact .same _

/-- Old bodies are irrelevant: a text whose query bodies have been exchanged for others that open no
comment has the same evaluation. In particular, evaluating the evaluated text once more changes
nothing if none of the new bodies opens a comment. -/
theorem evaluateText_irrelevant_bodies (text : String) :
    (∀ document, SameButBodies (ofText text) document →
      source.evaluateText renderer document.toText = source.evaluateText renderer text) ∧
    ((∀ d ∈ (source.evaluateText renderer text).document.directives, d.isQuery = true →
        OpensNone d.body) →
      source.evaluateText renderer (source.evaluateText renderer text).text =
        source.evaluateText renderer text) := by
  refine ⟨fun document h => evaluateText_toText source renderer h, fun hbodies => ?_⟩
  exact evaluateText_toText source renderer (exchanged_evaluate source renderer _ hbodies)

/-- No table is known. -/
def empty : RecordSource := fun _ => none

/-- A directive with a query that does not parse, between two texts. -/
def failing (body : List Char) : Document :=
  [.text "a ".toList,
    .directive ⟨"query".toList, "! ".toList, "<!-- #query ! -->".toList, body,
      "<!-- /query -->".toList⟩,
    .text " b".toList]

theorem evaluateText_irrelevant_bodies_failing :
    let text := (failing "old".toList).toText
    empty.evaluateText none (failing "<new>".toList).toText = empty.evaluateText none text ∧
      empty.evaluateText none (empty.evaluateText none text).text =
        empty.evaluateText none text := by
  intro text
  have hpieces : ofText text = failing "old".toList := by decide +kernel
  obtain ⟨hexchange, hagain⟩ := evaluateText_irrelevant_bodies empty none text
  refine ⟨hexchange (failing "<new>".toList) ?_, hagain (by decide +kernel)⟩
  rw [hpieces]
  exact .cons (.same _) (.cons (.body (by decide) (by decide)) (.cons (.same _) .nil))

end RecordSource

end NoteQuery
