import NoteQuery.Proofs.Rebuilding
import NoteQuery.Proofs.Scrubbing
import NoteQuery.Proofs.TreePlaces
import NoteQuery.Proofs.TreeSearch

/-!
# Scrubbing trees

Scrubbing a tree puts a leaf of spaces in the place of each outermost directive below the root and
leaves everything else as it is. A directive is taken out as a whole, so no directive is left below
the root and scrubbing again changes nothing.

Rendering and scrubbing stop at different nodes: rendering does not look below a node with a text,
scrubbing does not look below a directive. So a directive below a text is replaced without a trace
in the rendered text. The segments of a tree (`segments`) are what the rendered text consists of;
rendering the scrubbed tree renders the same segments, with spaces for the directives among them
(`toList_render_scrubDirectives`).
-/

namespace NoteQuery.Tree

open Text

variable {t node : Tree} {i : Nat} {path : List Nat}

/-! ## Scrubbing child by child -/

/-- What takes the place of a node below the root. -/
def scrubbed (t : Tree) : Tree := if t.hasTag Tag.directive then t.blankLeaf else t.scrubDirectives

theorem scrubbed_of_hasTag (ht : t.hasTag Tag.directive = true) : t.scrubbed = t.blankLeaf :=
  if_pos ht

theorem scrubbed_of_not_hasTag (ht : t.hasTag Tag.directive = false) :
    t.scrubbed = t.scrubDirectives :=
  if_neg (by simp [ht])

theorem inPlaceOf_scrubNode (t : Tree) : inPlaceOf scrubNode t = [t.scrubbed] := by
  cases ht : t.hasTag Tag.directive
  · have hkeep : scrubNode t = .keep t.label := if_neg (by simp [ht])
    rw [inPlaceOf, hkeep, scrubbed_of_not_hasTag ht]
    rfl
  · have hreplace : scrubNode t = .replace t.blankLeaf := if_pos ht
    rw [inPlaceOf, hreplace, scrubbed_of_hasTag ht]

/-- Scrubbing keeps the root and replaces its children one by one. -/
theorem scrubDirectives_eq (t : Tree) : t.scrubDirectives = ⟨t.label, t.children.map scrubbed⟩ := by
  rw [← mapAll_eq_map inPlaceOf_scrubNode]
  rfl

theorem children_scrubDirectives (t : Tree) :
    t.scrubDirectives.children = t.children.map scrubbed := by
  rw [scrubDirectives_eq]

theorem hasTag_scrubbed (t : Tree) : t.scrubbed.hasTag Tag.directive = false := by
  cases ht : t.hasTag Tag.directive
  · rw [scrubbed_of_not_hasTag ht]
    exact ht
  · rw [scrubbed_of_hasTag ht]
    rfl

/-! ## The rest of the tree -/

/-- A path that avoids directives leads to the same node as before, scrubbed. -/
theorem nodeAt?_scrubDirectives (h : t.Avoids Tag.directive path) :
    t.scrubDirectives.nodeAt? path = (t.nodeAt? path).map scrubDirectives := by
  induction path generalizing t with
  | nil => rfl
  | cons i path ih =>
    rw [nodeAt?, children_scrubDirectives, List.getElem?_map]
    cases hchild : t.children[i]? with
    | none =>
      rw [nodeAt?, hchild]
      rfl
    | some child =>
      obtain ⟨htag, havoids⟩ := (avoids_cons_iff hchild).1 h
      rw [nodeAt?_cons_of_child hchild, ← ih havoids, ← scrubbed_of_not_hasTag htag]
      rfl

/-- An outermost directive becomes a leaf of spaces. -/
theorem nodeAt?_scrubDirectives_concat (h : t.IsOutermostAt Tag.directive path i node) :
    t.scrubDirectives.nodeAt? (path ++ [i]) = some node.blankLeaf := by
  have hnode := h.nodeAt?
  rw [nodeAt?_concat] at hnode
  obtain ⟨parent, hparent, hchild⟩ := Option.bind_eq_some_iff.1 hnode
  rw [nodeAt?_concat, nodeAt?_scrubDirectives h.avoids, hparent]
  show parent.scrubDirectives.children[i]? = some node.blankLeaf
  rw [children_scrubDirectives, List.getElem?_map, hchild, ← scrubbed_of_hasTag h.hasTag]
  rfl

/-! ## Directives that are left -/

mutual

theorem firstIn?_children_scrubDirectives (t : Tree) :
    firstIn? Tag.directive t.scrubDirectives.children = none := by
  match t with
  | ⟨label, children⟩ =>
    rw [children_scrubDirectives]
    exact firstIn?_map_scrubbed children

theorem firstIn?_map_scrubbed (ts : List Tree) :
    firstIn? Tag.directive (ts.map scrubbed) = none := by
  match ts with
  | [] => exact firstIn?_nil
  | t :: ts =>
    have hchildren : firstIn? Tag.directive t.scrubbed.children = none := by
      cases ht : t.hasTag Tag.directive
      · rw [scrubbed_of_not_hasTag ht]
        exact firstIn?_children_scrubDirectives t
      · rw [scrubbed_of_hasTag ht]
        exact firstIn?_nil
    exact firstIn?_cons_eq_none_iff.2 ⟨hasTag_scrubbed t, hchildren, firstIn?_map_scrubbed ts⟩

end

mutual

/-- Without directives there is nothing to scrub. -/
theorem scrubDirectives_eq_self (t : Tree) (h : firstIn? Tag.directive t.children = none) :
    t.scrubDirectives = t := by
  match t with
  | ⟨label, children⟩ =>
    rw [scrubDirectives_eq, map_scrubbed_eq_self children h]

theorem map_scrubbed_eq_self (ts : List Tree) (h : firstIn? Tag.directive ts = none) :
    ts.map scrubbed = ts := by
  match ts with
  | [] => rfl
  | t :: ts =>
    obtain ⟨htag, hchildren, hts⟩ := firstIn?_cons_eq_none_iff.1 h
    rw [List.map_cons, scrubbed_of_not_hasTag htag, scrubDirectives_eq_self t hchildren,
      map_scrubbed_eq_self ts hts]

end

/-! ## Segments -/

/-- A segment of a rendered tree. -/
inductive Segment where
  /-- The text of a node that is no directive. -/
  | text (source : String)
  /-- All that a directive is rendered to. -/
  | directive (node : Tree)

namespace Segment

/-- A segment as it is rendered. -/
def toList : Segment → List Char
  | text source => source.toList
  | directive node => node.render.toList

/-- A segment with spaces in place of a directive. -/
def scrubbed : Segment → List Char
  | text source => source.toList
  | directive node => blanked node.render.toList

/-- The directive of a segment. -/
def directive? : Segment → Option Tree
  | text _ => none
  | directive node => some node

theorem byteSize_scrubbed (segment : Segment) :
    byteSize segment.scrubbed = byteSize segment.toList := by
  cases segment with
  | text source => rfl
  | directive node => exact byteSize_blanked _

end Segment

mutual

/-- The segments of a rendered tree, from left to right. The root is not taken for a directive. -/
def segments : Tree → List Segment
  | ⟨label, children⟩ =>
    match label.text with
    | some text => [.text text]
    | none => segmentsAll children

/-- The segments of rendered trees, one tree after the other. -/
def segmentsAll : List Tree → List Segment
  | [] => []
  | t :: ts => (if t.hasTag Tag.directive then [.directive t] else segments t) ++ segmentsAll ts

end

theorem segments_of_text {text : String} (ht : t.text = some text) : t.segments = [.text text] := by
  obtain ⟨label, children⟩ := t
  rw [segments, show label.text = some text from ht]

theorem segments_of_not_text (ht : t.text = none) : t.segments = segmentsAll t.children := by
  obtain ⟨label, children⟩ := t
  rw [segments, show label.text = none from ht]

theorem segmentsAll_cons_of_hasTag (ht : t.hasTag Tag.directive = true) (ts : List Tree) :
    segmentsAll (t :: ts) = .directive t :: segmentsAll ts := by
  rw [segmentsAll, if_pos ht]
  rfl

theorem segmentsAll_cons_of_not_hasTag (ht : t.hasTag Tag.directive = false) (ts : List Tree) :
    segmentsAll (t :: ts) = t.segments ++ segmentsAll ts := by
  rw [segmentsAll, if_neg (by simp [ht])]

mutual

/-- A tree is rendered segment by segment. -/
theorem toList_render (t : Tree) : t.render.toList = t.segments.flatMap Segment.toList := by
  match t with
  | ⟨label, children⟩ =>
    cases htext : Tree.text ⟨label, children⟩ with
    | some text =>
      rw [render_of_text htext, segments_of_text htext, List.flatMap_singleton]
      rfl
    | none =>
      rw [render_of_not_text htext, segments_of_not_text htext]
      exact toList_renderAll children

theorem toList_renderAll (ts : List Tree) :
    (renderAll ts).toList = (segmentsAll ts).flatMap Segment.toList := by
  match ts with
  | [] => rfl
  | t :: ts =>
    rw [renderAll, String.toList_append, toList_renderAll ts]
    cases ht : t.hasTag Tag.directive
    · rw [segmentsAll_cons_of_not_hasTag ht, List.flatMap_append, toList_render t]
    · rw [segmentsAll_cons_of_hasTag ht, List.flatMap_cons]
      rfl

end

mutual

/-- A scrubbed tree is rendered segment by segment, with spaces for directives. -/
theorem toList_render_scrubDirectives (t : Tree) :
    t.scrubDirectives.render.toList = t.segments.flatMap Segment.scrubbed := by
  match t with
  | ⟨label, children⟩ =>
    cases htext : Tree.text ⟨label, children⟩ with
    | some text =>
      have hscrubbed : (scrubDirectives ⟨label, children⟩).text = some text := htext
      rw [render_of_text hscrubbed, segments_of_text htext, List.flatMap_singleton]
      rfl
    | none =>
      have hscrubbed : (scrubDirectives ⟨label, children⟩).text = none := htext
      rw [render_of_not_text hscrubbed, children_scrubDirectives, segments_of_not_text htext]
      exact toList_renderAll_map_scrubbed children

theorem toList_renderAll_map_scrubbed (ts : List Tree) :
    (renderAll (ts.map scrubbed)).toList = (segmentsAll ts).flatMap Segment.scrubbed := by
  match ts with
  | [] => rfl
  | t :: ts =>
    rw [List.map_cons, renderAll, String.toList_append, toList_renderAll_map_scrubbed ts]
    cases ht : t.hasTag Tag.directive
    · rw [scrubbed_of_not_hasTag ht, segmentsAll_cons_of_not_hasTag ht, List.flatMap_append,
        toList_render_scrubDirectives t]
    · have hblank : t.blankLeaf.render.toList = blanked t.render.toList := String.toList_ofList
      rw [scrubbed_of_hasTag ht, segmentsAll_cons_of_hasTag ht, List.flatMap_cons, hblank]
      rfl

end

/-- Spaces for directives do not change the number of bytes. -/
theorem utf8ByteSize_render_scrubDirectives (t : Tree) :
    t.scrubDirectives.render.utf8ByteSize = t.render.utf8ByteSize := by
  rw [← byteSize_toList, ← byteSize_toList, toList_render_scrubDirectives, toList_render]
  induction t.segments with
  | nil => rfl
  | cons segment segments ih =>
    rw [List.flatMap_cons, List.flatMap_cons, byteSize_append, byteSize_append, ih,
      Segment.byteSize_scrubbed]

/-! ## Directives of segments -/

mutual

/-- The directives of segments are those that are rendered as outermost ones. -/
theorem mem_segments_iff (t : Tree) : .directive node ∈ t.segments ↔
    t.Shows Tag.directive node := by
  match t with
  | ⟨label, children⟩ =>
    rw [shows_iff]
    cases htext : Tree.text ⟨label, children⟩ with
    | some text => simp [segments_of_text htext]
    | none =>
      rw [segments_of_not_text htext, mem_segmentsAll_iff children]
      simp

theorem mem_segmentsAll_iff (ts : List Tree) :
    .directive node ∈ segmentsAll ts ↔
      ∃ t ∈ ts, if t.hasTag Tag.directive then t = node else t.Shows Tag.directive node := by
  match ts with
  | [] => simp [segmentsAll]
  | t :: ts =>
    rw [List.exists_mem_cons_iff, ← mem_segmentsAll_iff ts]
    cases ht : t.hasTag Tag.directive
    · rw [segmentsAll_cons_of_not_hasTag ht, List.mem_append, mem_segments_iff t, if_neg (by simp)]
    · rw [segmentsAll_cons_of_hasTag ht, List.mem_cons, if_pos rfl, Segment.directive.injEq,
        eq_comm]

end

mutual

/-- The directives of segments are outermost ones, in the order of the tree. -/
theorem directives_segments_sublist (t : Tree) :
    List.Sublist (t.segments.filterMap Segment.directive?)
      (outermostAll Tag.directive t.children) := by
  match t with
  | ⟨label, children⟩ =>
    cases htext : Tree.text ⟨label, children⟩ with
    | some text =>
      rw [segments_of_text htext]
      exact List.nil_sublist _
    | none =>
      rw [segments_of_not_text htext]
      exact directives_segmentsAll_sublist children

theorem directives_segmentsAll_sublist (ts : List Tree) :
    List.Sublist ((segmentsAll ts).filterMap Segment.directive?)
      (outermostAll Tag.directive ts) := by
  match ts with
  | [] => exact List.nil_sublist _
  | t :: ts =>
    rw [outermostAll]
    cases ht : t.hasTag Tag.directive
    · rw [segmentsAll_cons_of_not_hasTag ht, List.filterMap_append, outermost_of_not_hasTag ht]
      exact (directives_segments_sublist t).append (directives_segmentsAll_sublist ts)
    · rw [segmentsAll_cons_of_hasTag ht, outermost_of_hasTag ht]
      exact (directives_segmentsAll_sublist ts).cons_cons t

end

/-! ## The scrubbed tree -/

/-- A leaf of spaces stands for a node: as many as the node is rendered to bytes, and at its
place. -/
structure IsBlankFor (blank node : Tree) : Prop where
  tag_eq : blank.tag = none
  text_eq : blank.text = some (String.ofList (List.replicate node.render.utf8ByteSize ' '))
  start_eq : blank.start = node.start
  stop_eq : blank.stop = node.stop
  children_eq : blank.children = []

theorem isBlankFor_blankLeaf (t : Tree) : t.blankLeaf.IsBlankFor t where
  tag_eq := rfl
  text_eq := by
    rw [← byteSize_toList]
    rfl
  start_eq := rfl
  stop_eq := rfl
  children_eq := rfl

/-- A tree has leaves of spaces for the outermost directives of another one, and is the same outside
of these. -/
structure IsScrubbedFrom (result t : Tree) : Prop where
  /-- A node that is neither a directive nor below one stays where it is, with its label and with as
  many children. -/
  outside : ∀ path node, t.Avoids Tag.directive path → t.nodeAt? path = some node →
    ∃ kept, result.nodeAt? path = some kept ∧
      kept.label = node.label ∧ kept.children.length = node.children.length
  inside : ∀ path i node, t.IsOutermostAt Tag.directive path i node →
    ∃ blank, result.nodeAt? (path ++ [i]) = some blank ∧ blank.IsBlankFor node
  noneLeft : ∀ node ∈ walk result.children, node.hasTag Tag.directive = false

theorem isScrubbedFrom_scrubDirectives (t : Tree) : t.scrubDirectives.IsScrubbedFrom t where
  outside path node havoids hnode := by
    refine ⟨node.scrubDirectives, ?_, rfl, ?_⟩
    · rw [nodeAt?_scrubDirectives havoids, hnode]
      rfl
    · rw [children_scrubDirectives, List.length_map]
  inside path i node hplace :=
    ⟨node.blankLeaf, nodeAt?_scrubDirectives_concat hplace, isBlankFor_blankLeaf node⟩
  noneLeft node hnode := by
    have hnone := List.find?_eq_none.1 (firstIn?_children_scrubDirectives t) node hnode
    simpa using hnone

/-- Scrubbing keeps the layout of a tree. The rendered text consists of segments; in their place the
scrubbed tree is rendered to the same texts and to spaces for the directives, as many as these have
bytes. The directives among the segments are the outermost ones that are rendered. -/
theorem scrubDirectives_keepsLayout (t : Tree) :
    t.scrubDirectives.IsScrubbedFrom t ∧
      t.render.toList = t.segments.flatMap Segment.toList ∧
      t.scrubDirectives.render.toList = t.segments.flatMap Segment.scrubbed ∧
      t.scrubDirectives.render.utf8ByteSize = t.render.utf8ByteSize ∧
      (∀ node, .directive node ∈ t.segments ↔ t.Shows Tag.directive node) ∧
      List.Sublist (t.segments.filterMap Segment.directive?)
        (outermostAll Tag.directive t.children) ∧
      t.scrubDirectives.scrubDirectives = t.scrubDirectives :=
  ⟨isScrubbedFrom_scrubDirectives t, toList_render t, toList_render_scrubDirectives t,
    utf8ByteSize_render_scrubDirectives t, fun _ => mem_segments_iff t,
    directives_segments_sublist t, scrubDirectives_eq_self _ (firstIn?_children_scrubDirectives t)⟩

/-- A directive with another one inside of it, and a directive below a text. -/
example :
    let inner := Tree.spanning Tag.directive [.leaf "é" 1 3]
    let outer := Tree.spanning Tag.directive [.leaf "a" 0 1, inner]
    let covered : Tree := ⟨{ text := some "b", start := some 3, stop := some 4 }, [inner]⟩
    (Tree.spanning Tag.program [outer, covered]).scrubDirectives.render = "   b" ∧
      (Tree.spanning Tag.program [outer, covered]).segments = [.directive outer, .text "b"] := by
  exact ⟨rfl, rfl⟩

end NoteQuery.Tree
