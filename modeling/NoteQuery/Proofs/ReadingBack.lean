import NoteQuery.Proofs.Reevaluation

/-!
# Reading results back

The results that evaluation writes into a document are meant to be its query bodies from then on.
They are, as long as no result holds an end marker that closes something: that of a query, or one
with the name of a start marker that stands outside of the directives and waits for its end
(`evaluateText_readsBack`). Start markers may stand in the data, and end markers of other names.

Cells are escaped for the sake of the table only. A record that spells `<!-- /query -->` ends the
directive that shows it (`not_readsBack_closingRecord`).
-/

namespace NoteQuery

open Text

namespace Document

/-- The query directives of a text, in order. -/
def queryDirectives (text : String) : List Directive :=
  (ofText text).directives.filter Directive.isQuery

end Document

open Document

/-- Line breaks do not belong to an end marker. -/
theorem holdsEnd_of_lines {name cs : List Char} (h : HoldsEnd name ('\n' :: (cs ++ ['\n']))) :
    HoldsEnd name cs := by
  obtain ⟨marker, hmarker, before, after, heq⟩ := h
  obtain ⟨inner, rfl, -, -⟩ := hmarker.eq_cons
  refine ⟨_, hmarker, ?_⟩
  -- it begins behind the first line break, with `<`
  obtain ⟨before, rfl⟩ : ∃ others, before = '\n' :: others := by
    cases before with
    | nil => exact absurd (List.cons.inj heq).1 (by decide)
    | cons c others => exact ⟨others, by rw [(List.cons.inj heq).1]⟩
  -- it ends in front of the last one, with `>`
  rcases List.eq_nil_or_concat after with rfl | ⟨others, last, rfl⟩
  · have hends : '\n' :: before ++ '<' :: (inner ++ ['-', '-']) ++ ['>'] =
        '\n' :: cs ++ ['\n'] := by simpa [commentEnd] using heq
    exact absurd (List.cons.inj (List.append_inj' hends rfl).2).1 (by decide)
  · have hends : '\n' :: before ++ '<' :: (inner ++ commentEnd) ++ others ++ [last] =
        '\n' :: cs ++ ['\n'] := by simpa using heq
    have hfront := (List.append_inj' hends rfl).1
    exact ⟨before, others, by simpa using hfront⟩

namespace RecordSource

variable (source : RecordSource) (renderer : Option Renderer)

/-- The results of a text close nothing. They hold no end marker of a query, and none with the name
of a start marker around the directives. -/
def ClosesNothing (text : String) : Prop :=
  ∀ d ∈ queryDirectives text, ∀ name, name = queryName ∨ HoldsStart name (ofText text) →
    ¬ HoldsEnd name (source.shownText renderer d)

/-- What evaluation writes is read back: the same query directives in the same order, and the bodies
that have been written. -/
def ReadsBack (text : String) : Prop :=
  (queryDirectives (source.evaluateText renderer text).text).map (fun d => (d.args, d.body)) =
    (queryDirectives text).map (fun d => (d.args, '\n' :: (source.shownText renderer d ++ ['\n'])))

instance (text : String) : Decidable (source.ReadsBack renderer text) :=
  inferInstanceAs (Decidable (_ = _))

instance (text : String) : Decidable (source.ClosesNothing renderer text) :=
  decidable_of_iff (∀ d ∈ queryDirectives text, ∀ name ∈ queryName :: (ofText text).openNames,
      ¬ HoldsEnd name (source.shownText renderer d)) (by
    unfold ClosesNothing
    simp only [List.mem_cons, holdsStart_iff])

theorem body_evaluateDirective {d : Directive} (hquery : d.isQuery = true) :
    (source.evaluateDirective renderer d).body =
      '\n' :: (source.shownText renderer d ++ ['\n']) := by
  rw [evaluateDirective, if_pos hquery]

theorem args_evaluateDirective (d : Directive) :
    (source.evaluateDirective renderer d).args = d.args := by
  unfold evaluateDirective
  split <;> rfl

/-- The evaluated text is cut into the evaluated document if its results close nothing. -/
theorem ofText_evaluateText {text : String} (h : source.ClosesNothing renderer text) :
    ofText (source.evaluateText renderer text).text =
      (source.evaluate renderer (ofText text)).document := by
  let allowed : List Char → Prop :=
    fun body => ∀ name, name = queryName ∨ HoldsStart name (ofText text) → ¬ HoldsEnd name body
  have hbodies : ∀ d ∈ (source.evaluate renderer (ofText text)).document.directives,
      d.isQuery = true → allowed d.body := by
    intro d hd hquery name hname hholds
    rw [directives_evaluate, List.mem_map] at hd
    obtain ⟨d', hmem, rfl⟩ := hd
    rw [isQuery_evaluateDirective] at hquery
    rw [body_evaluateDirective source renderer hquery] at hholds
    exact h d' (List.mem_filter.2 ⟨hmem, hquery⟩) name hname (holdsEnd_of_lines hholds)
  have hexchanged := exchanged_evaluate source renderer (ofText text) hbodies
  unfold ofText Evaluation.text toText
  rw [String.toList_ofList]
  exact ofList_toList_of_exchanged hexchanged (fun body hbody => hbody queryName (.inl rfl))
    (fun name hname body hbody => hbody name (.inr hname))

/-- The query directives of the evaluated document, with their arguments and bodies. -/
theorem map_queryDirectives_evaluate (document : Document) :
    ((source.evaluate renderer document).document.directives.filter Directive.isQuery).map
        (fun d => (d.args, d.body)) =
      (document.directives.filter Directive.isQuery).map
        (fun d => (d.args, '\n' :: (source.shownText renderer d ++ ['\n']))) := by
  have hfilter : Directive.isQuery ∘ source.evaluateDirective renderer = Directive.isQuery :=
    funext (isQuery_evaluateDirective source renderer)
  rw [directives_evaluate, List.filter_map, hfilter, List.map_map]
  apply List.map_congr_left
  intro d hd
  have hquery := (List.mem_filter.1 hd).2
  rw [Function.comp_apply, args_evaluateDirective, body_evaluateDirective source renderer hquery]

/-- What evaluation writes is read back if its results close nothing. It is not read back if one of
them holds an end marker of a query. -/
theorem evaluateText_readsBack (text : String) :
    (source.ClosesNothing renderer text → source.ReadsBack renderer text) ∧
      (source.ReadsBack renderer text → ∀ d ∈ queryDirectives text,
        ¬ HoldsEnd queryName (source.shownText renderer d)) := by
  constructor
  · intro h
    unfold ReadsBack queryDirectives
    rw [ofText_evaluateText source renderer h]
    exact map_queryDirectives_evaluate source renderer (ofText text)
  · intro hback d hd hholds
    have hwritten : (d.args, '\n' :: (source.shownText renderer d ++ ['\n'])) ∈
        (queryDirectives text).map
          (fun d => (d.args, '\n' :: (source.shownText renderer d ++ ['\n']))) :=
      List.mem_map_of_mem hd
    rw [← hback, List.mem_map] at hwritten
    obtain ⟨d', hd', heq⟩ := hwritten
    obtain ⟨hmem, hquery⟩ := List.mem_filter.1 hd'
    obtain ⟨rest, hcut⟩ := exists_isCutBefore_of_mem (mem_directives_iff.1 hmem)
    -- a body that is read ends at the first end marker of a query
    apply hcut.not_holdsEnd
    rw [eq_of_beq hquery, (Prod.mk.inj heq).2]
    obtain ⟨marker, hmarker, hin⟩ := hholds
    exact ⟨marker, hmarker, (hin.trans (List.prefix_append _ _).isInfix).trans
      (List.suffix_cons _ _).isInfix⟩

/-- One table named `page`, with a name in each record. -/
def pages (names : List String) : RecordSource := fun table =>
  if table = "page" then some (names.map (fun name => Record.ofList [("name", .string name)]))
  else none

theorem evaluateText_readsBack_startMarkers :
    let source := pages ["<!-- #query page -->", "<!-- /note -->"]
    let text := "<!-- #use x --> <!-- #query page --> <!-- /query -->"
    source.ClosesNothing none text ∧ source.ReadsBack none text := by
  intro source text
  have hcloses : source.ClosesNothing none text := by decide +kernel
  exact ⟨hcloses, (evaluateText_readsBack source none text).1 hcloses⟩

/-- A record that spells an end marker ends the directive that shows it. -/
theorem not_readsBack_closingRecord :
    ¬ (pages ["<!-- /query -->"]).ReadsBack none "<!-- #query page --><!-- /query -->" := by
  decide +kernel

end RecordSource

end NoteQuery
