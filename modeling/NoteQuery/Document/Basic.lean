import NoteQuery.Document.Marker

/-! # Documents

A document is cut into directives and the text between them. A start marker opens a directive if an
end marker with its name follows; the first such end marker closes it. A start marker that is not
closed is text, and so is everything inside of a directive's body. `toList_ofList` says that the
pieces are the whole document.
-/

namespace NoteQuery

open NoteQuery.Text

/-- A directive of a document. -/
structure Directive where
  name : List Char
  /-- What the start marker says behind the name. -/
  args : List Char
  /-- The start marker as it is written. -/
  startMarker : List Char
  /-- What stands between the markers. -/
  body : List Char
  /-- The end marker as it is written. -/
  endMarker : List Char
deriving DecidableEq, Inhabited

/-- A piece of a document. -/
inductive Piece where
  | text (cs : List Char)
  | directive (d : Directive)
deriving DecidableEq, Inhabited

/-- A document, cut into pieces. -/
abbrev Document := List Piece

/-- A directive as it is written. -/
def Directive.toList (d : Directive) : List Char := d.startMarker ++ d.body ++ d.endMarker

/-- A piece as it is written. -/
def Piece.toList : Piece → List Char
  | text cs => cs
  | directive d => d.toList

namespace Document

/-! ## Where a directive ends -/

/-- What closes a directive. -/
structure Closing where
  /-- What stands in front of the end marker. -/
  body : List Char
  /-- The end marker as it is written. -/
  marker : List Char
  rest : List Char

/-- What `cs` has in front of its last part `rest`. -/
def frontOf (cs rest : List Char) : List Char := cs.take (cs.length - rest.length)

/-- The first end marker with a name. -/
def closing? (name : List Char) : List Char → Option Closing
  | [] => none
  | c :: cs =>
    match (endMarker? (c :: cs)).filter (fun m => m.name == name) with
    | some m => some ⟨[], frontOf (c :: cs) m.rest, m.rest⟩
    | none => (closing? name cs).map (fun closing => { closing with body := c :: closing.body })

theorem eq_frontOf_append {cs rest : List Char} (h : rest <:+ cs) :
    frontOf cs rest ++ rest = cs := by
  obtain ⟨front, rfl⟩ := h
  simp [frontOf]

theorem suffix_of_closing? {name cs : List Char} {closing : Closing}
    (h : closing? name cs = some closing) :
    closing.body ++ (closing.marker ++ closing.rest) = cs ∧ closing.rest.length < cs.length := by
  induction cs generalizing closing with
  | nil => simp [closing?] at h
  | cons c cs ih =>
    simp only [closing?] at h
    split at h
    · rename_i m hm
      simp only [Option.some.injEq] at h
      subst h
      have ⟨hs, hl⟩ := suffix_of_endMarker? (Option.filter_eq_some_iff.1 hm).1
      exact ⟨eq_frontOf_append hs, hl⟩
    · obtain ⟨inner, hi, rfl⟩ := Option.map_eq_some_iff.1 h
      have ⟨hs, hl⟩ := ih hi
      refine ⟨by simp [hs], ?_⟩
      simp only [List.length_cons]
      omega

/-! ## Cutting a document -/

/-- Puts text in front of a document. -/
def consText (cs : List Char) : Document → Document
  | .text others :: pieces => .text (cs ++ others) :: pieces
  | pieces => .text cs :: pieces

/-- The pieces of a document. -/
def ofList (cs : List Char) : Document :=
  match cs with
  | [] => []
  | c :: others =>
    match hs : startMarker? (c :: others) with
    | none => consText [c] (ofList others)
    | some start =>
      have hstart := (suffix_of_startMarker? hs).2
      match hc : closing? start.name start.rest with
      | none => consText (frontOf (c :: others) start.rest) (ofList start.rest)
      | some closing =>
        have := Nat.lt_trans (suffix_of_closing? hc).2 hstart
        .directive {
          name := start.name
          args := start.args
          startMarker := frontOf (c :: others) start.rest
          body := closing.body
          endMarker := closing.marker } :: ofList closing.rest
termination_by cs.length
decreasing_by all_goals (simp only [List.length_cons] at *; omega)

/-- The pieces of a text. -/
def ofText (text : String) : Document := ofList text.toList

/-- A document as it is written. -/
def toList (document : Document) : List Char := document.flatMap Piece.toList

/-- A document as a text. -/
def toText (document : Document) : String := String.ofList document.toList

/-- The directives of a document, in order. -/
def directives (document : Document) : List Directive :=
  document.filterMap (fun piece =>
    match piece with
    | .text _ => none
    | .directive d => some d)

/-! ## Nothing is lost -/

@[simp] theorem toList_consText (cs : List Char) (document : Document) :
    (consText cs document).toList = cs ++ document.toList := by
  unfold consText
  split <;> simp [toList, Piece.toList]

/-- The pieces of a document are the whole document. -/
theorem toList_ofList (cs : List Char) : (ofList cs).toList = cs := by
  fun_induction ofList cs with
  | case1 => rfl
  | case2 c others hs ih => simp [ih]
  | case3 c others start hs hlt hc ih =>
    simp [ih, eq_frontOf_append (suffix_of_startMarker? hs).1]
  | case4 c others start hs hlt closing hc hrest ih =>
    have hclosing := (suffix_of_closing? hc).1
    have hstart := eq_frontOf_append (suffix_of_startMarker? hs).1
    simp only [toList, List.flatMap_cons, Piece.toList, Directive.toList] at ih ⊢
    rw [ih, List.append_assoc, List.append_assoc, hclosing, hstart]

end Document

end NoteQuery
