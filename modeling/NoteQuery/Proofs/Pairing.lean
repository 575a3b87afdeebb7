import NoteQuery.Proofs.Placement

/-!
# Pairing start markers with end markers

The directives of a text can be found in two passes. The first one scans the whole text for start
markers, also inside of bodies (`scanStarts`). The second one goes through them with a cursor: a
start marker that begins in front of the cursor is passed over; the other ones are closed by the
first end marker of their name that a scan behind them comes to (`scanEnds`), and the cursor moves
behind it (`pairedFrom`).

Cutting a document finds the same directives (`map_found_placedFrom`). So what is found behind a
directive is what is found in the text behind it, whatever the directive holds
(`paired_behind_directive`).
-/

namespace NoteQuery

open Text

/-! ## Directives by their bytes -/

/-- A directive by its name, its arguments and its bytes. -/
structure FoundDirective where
  name : List Char
  args : List Char
  startMarker : ByteRange
  body : ByteRange
  endMarker : ByteRange
deriving DecidableEq

/-- The bytes of a directive at its place. -/
def PlacedDirective.found (d : PlacedDirective) : FoundDirective :=
  ⟨d.directive.name, d.directive.args, d.startMarker, d.body, d.endMarker⟩

/-- A range of bytes, further on by `n` bytes. -/
def ByteRange.shift (n : Nat) (range : ByteRange) : ByteRange := ⟨range.start + n, range.stop + n⟩

/-- A directive, further on by `n` bytes. -/
def FoundDirective.shift (n : Nat) (d : FoundDirective) : FoundDirective :=
  { d with
    startMarker := d.startMarker.shift n
    body := d.body.shift n
    endMarker := d.endMarker.shift n }

theorem PlacedDirective.found_add (d : Directive) (offset n : Nat) :
    found ⟨d, offset + n⟩ = (found ⟨d, offset⟩).shift n := by
  simp only [found, startMarker, body, endMarker, FoundDirective.shift, ByteRange.shift,
    Nat.add_right_comm _ n]

namespace Document

/-! ## The scan for end markers -/

/-- An end marker that the scan comes to. -/
structure ScannedEnd where
  marker : EndMarker
  range : ByteRange
deriving DecidableEq

/-- The end markers of a text that stands at a byte offset: the first one, the first one behind it,
and so on. -/
def scanEnds (offset : Nat) (cs : List Char) : List ScannedEnd :=
  match cs with
  | [] => []
  | c :: others =>
    match hs : endMarker? (c :: others) with
    | none => scanEnds (offset + c.utf8Size) others
    | some m =>
      have : m.rest.length < others.length + 1 := (suffix_of_endMarker? hs).2
      let stop := offset + byteSize (frontOf (c :: others) m.rest)
      ⟨m, ⟨offset, stop⟩⟩ :: scanEnds stop m.rest
termination_by cs.length

/-- What the scan makes of a directive's closing. -/
def Closing.scanned (name : List Char) (offset : Nat) (closing : Closing) : ScannedEnd :=
  let start := offset + byteSize closing.body
  ⟨⟨name, closing.rest⟩, ⟨start, start + byteSize closing.marker⟩⟩

theorem Closing.scanned_behind (name front : List Char) (offset : Nat) (closing : Closing) :
    (closing.behind front).scanned name offset =
      closing.scanned name (offset + byteSize front) := by
  simp only [scanned, behind, byteSize_append, Nat.add_assoc]

/-- No other end marker begins in an end marker. -/
theorem IsEndMarker.not_closes {marker name other part : List Char} (h : IsEndMarker marker name)
    (hother : name ≠ other) (hpart : part <:+ marker) (hne : part ≠ []) (rest : List Char) :
    ¬ Closes other (part ++ rest) := by
  rintro ⟨rest', hcloses⟩
  obtain ⟨inner, rfl, hlt, -⟩ := h.eq_cons
  rcases List.suffix_cons_iff.1 hpart with rfl | hinside
  · -- at its front the end marker itself is read
    rw [h.endMarker?_append rest] at hcloses
    exact hother (EndMarker.mk.inj (Option.some.inj hcloses)).1
  · -- behind its front there is no `<`
    obtain ⟨inner', heq⟩ := eq_append_of_endMarker? hcloses
    obtain ⟨c, part, rfl⟩ := List.exists_cons_of_ne_nil hne
    obtain rfl : c = '<' := (List.cons.inj heq).1
    have hmem := hinside.subset (List.mem_cons_self ..)
    simp [commentEnd, hlt] at hmem

/-- The first end marker of a name is the first one with this name that the scan comes to. -/
theorem find?_scanEnds (name : List Char) (offset : Nat) (cs : List Char) :
    (scanEnds offset cs).find? (fun e => e.marker.name == name) =
      (closing? name cs).map (Closing.scanned name offset) := by
  fun_induction scanEnds offset cs with
  | case1 => rfl
  | case2 offset c cs hs ih =>
    have hnot : ¬ Closes name (c :: cs) := by
      rintro ⟨rest, hcloses⟩
      simp [hs] at hcloses
    rw [closing?_cons_of_not_closes hnot, ih, Option.map_map]
    congr 1
    funext closing
    exact (Closing.scanned_behind name [c] offset closing).symm
  | case3 offset c cs m hs hlt stop ih =>
    have hcut := eq_frontOf_append (suffix_of_endMarker? hs).1
    subst stop
    generalize frontOf (c :: cs) m.rest = marker at hcut ih ⊢
    rw [← hcut] at hs ⊢
    by_cases hname : m.name = name
    · subst hname
      rw [List.find?_cons_of_pos (by simp), closing?_of_endMarker? hs]
      rfl
    · -- the end marker has another name, and the one that is looked for does not begin inside of it
      have hmarker : IsEndMarker marker m.name := isEndMarker_of_endMarker?_append hs
      have hnone : ∀ part, part <:+ marker → part ≠ [] → ¬ Closes name (part ++ m.rest) :=
        fun part hpart hne => hmarker.not_closes hname hpart hne m.rest
      rw [List.find?_cons_of_neg (by simpa using hname), ih, closing?_append_of_not_closes hnone,
        Option.map_map]
      congr 1
      funext closing
      exact (Closing.scanned_behind name marker offset closing).symm

/-! ## The second pass -/

/-- The directives that start markers open, with the text in front of the cursor taken. -/
def pairedFrom (cursor : Nat) : List ScannedStart → List FoundDirective
  | [] => []
  | s :: starts =>
    if s.range.start < cursor then pairedFrom cursor starts
    else
      match (scanEnds s.range.stop s.marker.rest).find?
          (fun e => e.marker.name == s.marker.name) with
      | none => pairedFrom cursor starts
      | some e =>
        { name := s.marker.name
          args := s.marker.args
          startMarker := s.range
          body := ⟨s.range.stop, e.range.start⟩
          endMarker := e.range } :: pairedFrom e.range.stop starts

/-- The directives of a text, found in two passes. -/
def paired (text : String) : List FoundDirective := pairedFrom 0 (scanStarts 0 text.toList)

section

variable {cursor : Nat} {s : ScannedStart} {starts : List ScannedStart}

/-- Start markers in front of the cursor are passed over. -/
theorem pairedFrom_append_of_lt {inside : List ScannedStart}
    (h : ∀ s ∈ inside, s.range.start < cursor) :
    pairedFrom cursor (inside ++ starts) = pairedFrom cursor starts := by
  induction inside with
  | nil => rfl
  | cons s inside ih =>
    have hfirst : s.range.start < cursor := h s (List.mem_cons_self ..)
    rw [List.cons_append, pairedFrom, if_pos hfirst]
    exact ih (fun s' hs' => h s' (List.mem_cons_of_mem s hs'))

theorem pairedFrom_cons_of_unclosed (h : closing? s.marker.name s.marker.rest = none) :
    pairedFrom cursor (s :: starts) = pairedFrom cursor starts := by
  rw [pairedFrom, find?_scanEnds, h]
  split <;> rfl

theorem pairedFrom_cons_of_closing? {closing : Closing} (hcursor : cursor ≤ s.range.start)
    (h : closing? s.marker.name s.marker.rest = some closing) :
    pairedFrom cursor (s :: starts) =
      ⟨s.marker.name, s.marker.args, s.range,
        ⟨s.range.stop, (closing.scanned s.marker.name s.range.stop).range.start⟩,
        (closing.scanned s.marker.name s.range.stop).range⟩ ::
        pairedFrom (closing.scanned s.marker.name s.range.stop).range.stop starts := by
  rw [pairedFrom, if_neg (Nat.not_lt.2 hcursor), find?_scanEnds, h]
  rfl

end

/-! ## Both ways find the same -/

theorem map_found_placedFrom {cursor offset : Nat} (hcursor : cursor ≤ offset) (cs : List Char) :
    (placedFrom offset (ofList cs)).map PlacedDirective.found =
      pairedFrom cursor (scanStarts offset cs) := by
  -- the cursor stays behind the last directive while the offset runs through the text
  induction cs using cut_induction generalizing cursor offset with
  | nil =>
    rw [scanStarts, ofList]
    rfl
  | skip c cs hs ih =>
    rw [scanStarts_cons_of_none hs, ofList_cons_of_none hs, placedFrom_consText]
    exact ih (Nat.le_add_right_of_le hcursor)
  | unclosed marker rest name args hs hc ih =>
    rw [scanStarts_append_of_some hs, ofList_of_unclosed hs hc, placedFrom_consText,
      pairedFrom_cons_of_unclosed hc]
    exact ih (Nat.le_add_right_of_le hcursor)
  | directive d rest hd ih =>
    obtain ⟨inside, hscan, hinside⟩ := hd.scanStarts_eq offset
    have hstop : offset + byteSize d.startMarker + byteSize d.body + byteSize d.endMarker =
        offset + byteSize d.toList := PlacedDirective.span_stop ⟨d, offset⟩
    rw [hscan, hd.ofList_eq, placedFrom, List.map_cons,
      pairedFrom_cons_of_closing? hcursor hd.closing?_eq]
    dsimp only [Closing.scanned]
    -- the cursor stands behind the directive, so the start markers inside of it are passed over
    rw [hstop, pairedFrom_append_of_lt (fun s hs => (hinside s hs).2), ← ih (Nat.le_refl _),
      ← hstop]
    rfl

theorem map_found_placed (text : String) :
    (ofText text).placed.map PlacedDirective.found = paired text :=
  map_found_placedFrom (Nat.le_refl 0) text.toList

/-! ## Behind a directive -/

/-- Behind a directive, the rest of the text is cut as if nothing stood in front of it. -/
theorem exists_of_placedFrom_eq_append {offset : Nat} {cs : List Char}
    {before behind : List PlacedDirective} {d : PlacedDirective}
    (h : placedFrom offset (ofList cs) = before ++ d :: behind) :
    ∃ front rest, cs = front ++ rest ∧ offset + byteSize front = d.span.stop ∧
      behind = placedFrom d.span.stop (ofList rest) := by
  -- the front grows by what is cut off, until the cut comes to the directive
  induction cs using cut_induction generalizing offset before with
  | nil => simp [ofList, placedFrom] at h
  | skip c cs hs ih =>
    rw [ofList_cons_of_none hs, placedFrom_consText] at h
    obtain ⟨front, rest, rfl, hsize, hbehind⟩ := ih h
    refine ⟨c :: front, rest, rfl, ?_, hbehind⟩
    rw [← hsize, byteSize_cons, byteSize_cons, byteSize_nil]
    omega
  | unclosed marker rest name args hs hc ih =>
    rw [ofList_of_unclosed hs hc, placedFrom_consText] at h
    obtain ⟨front, rest', rfl, hsize, hbehind⟩ := ih h
    refine ⟨marker ++ front, rest', (List.append_assoc ..).symm, ?_, hbehind⟩
    rw [← hsize, byteSize_append, Nat.add_assoc]
  | directive d' rest hd ih =>
    rw [hd.ofList_eq, placedFrom] at h
    cases before with
    | nil =>
      obtain ⟨rfl, rfl⟩ := List.cons.inj h
      have hstop := PlacedDirective.span_stop ⟨d', offset⟩
      exact ⟨d'.toList, rest, rfl, hstop.symm, by rw [hstop]⟩
    | cons e before =>
      obtain ⟨-, h⟩ := List.cons.inj h
      obtain ⟨front, rest', rfl, hsize, hbehind⟩ := ih h
      refine ⟨d'.toList ++ front, rest', (List.append_assoc ..).symm, ?_, hbehind⟩
      rw [← hsize, byteSize_append, Nat.add_assoc]

/-- With text in front of a document, its directives stand further on. -/
theorem map_found_placedFrom_add (offset n : Nat) (document : Document) :
    (placedFrom (offset + n) document).map PlacedDirective.found =
      ((placedFrom offset document).map PlacedDirective.found).map (FoundDirective.shift n) := by
  induction document generalizing offset with
  | nil => rfl
  | cons piece document ih =>
    cases piece with
    | text cs =>
      rw [placedFrom, placedFrom, Nat.add_right_comm]
      exact ih (offset + byteSize cs)
    | directive d =>
      rw [placedFrom, placedFrom, Nat.add_right_comm]
      simp only [List.map_cons, PlacedDirective.found_add, ih]

/-- Cutting a text finds the directives that the two passes find. Behind any of them, the first one
for instance, those directives are found that are found in the text behind it by itself, further on
by as many bytes as stand in front of that text. -/
theorem paired_behind_directive (text : String) :
    (ofText text).placed.map PlacedDirective.found = paired text ∧
      ∀ before d behind, paired text = before ++ d :: behind →
        ∃ front rest, text.toList = front ++ rest ∧ byteSize front = d.endMarker.stop ∧
          behind = (paired (String.ofList rest)).map (FoundDirective.shift d.endMarker.stop) := by
  refine ⟨map_found_placed text, ?_⟩
  intro before d behind h
  rw [← map_found_placed] at h
  obtain ⟨before', tail, hplaced, rfl, htail⟩ := List.map_eq_append_iff.1 h
  obtain ⟨d', behind', rfl, rfl, rfl⟩ := List.map_eq_cons_iff.1 htail
  obtain ⟨front, rest, hcut, hsize, rfl⟩ := exists_of_placedFrom_eq_append hplaced
  rw [Nat.zero_add] at hsize
  refine ⟨front, rest, hcut, hsize, ?_⟩
  have hshift := map_found_placedFrom_add 0 d'.span.stop (ofList rest)
  rw [Nat.zero_add] at hshift
  rw [hshift, ← map_found_placed, ofText, String.toList_ofList]
  rfl

/-- The start marker in the body of the first directive takes the end marker into its arguments. -/
theorem paired_behind_directive_overlapping :
    let text := "<!-- #a x --><!-- #b --><!-- /a -->é<!-- #b y -->z<!-- /b -->"
    let first : FoundDirective := ⟨['a'], ['x', ' '], ⟨0, 13⟩, ⟨13, 24⟩, ⟨24, 35⟩⟩
    let second : FoundDirective := ⟨['b'], ['y', ' '], ⟨37, 50⟩, ⟨50, 51⟩, ⟨51, 62⟩⟩
    paired text = [] ++ first :: [second] ∧
      ∃ front rest, text.toList = front ++ rest ∧ byteSize front = 35 ∧
        [second] = (paired (String.ofList rest)).map (FoundDirective.shift 35) := by
  intro text first second
  have hfirst : paired text = [] ++ first :: [second] := by decide +kernel
  exact ⟨hfirst, (paired_behind_directive text).2 [] first [second] hfirst⟩

end Document

end NoteQuery
