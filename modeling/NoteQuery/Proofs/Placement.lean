import NoteQuery.Proofs.StartScan

/-!
# Which directives are found

The directives that cutting a document yields are sound and complete with regard to the markers of
its text (`placed_accounts`). They stand one behind the other, each between a start marker and the
first end marker of its name behind that. A start marker that the scan comes to and that opens no
directive begins inside of one, or no end marker of its name follows. The scan itself is measured
with the start markers of the text (`IsScan`).
-/

namespace NoteQuery

open Text Document

/-! ## Places of pieces -/

namespace Document

theorem placedFrom_consText (offset : Nat) (cs : List Char) (document : Document) :
    placedFrom offset (consText cs document) = placedFrom (offset + byteSize cs) document := by
  unfold consText
  split
  · rw [placedFrom, placedFrom, byteSize_append, Nat.add_assoc]
  · rw [placedFrom]

theorem offset_le_of_mem_placedFrom {offset : Nat} {document : Document} {d : PlacedDirective}
    (h : d ∈ placedFrom offset document) : offset ≤ d.offset := by
  induction document generalizing offset with
  | nil => simp [placedFrom] at h
  | cons piece document ih =>
    cases piece with
    | text cs =>
      have hle := ih h
      omega
    | directive d' =>
      rcases List.mem_cons.1 h with rfl | h
      · exact Nat.le_refl _
      · have hle := ih h
        omega

end Document

/-- A directive takes the bytes of its text. -/
theorem PlacedDirective.span_stop (d : PlacedDirective) :
    d.span.stop = d.offset + byteSize d.directive.toList := by
  show d.offset + byteSize d.directive.startMarker + byteSize d.directive.body +
    byteSize d.directive.endMarker = _
  rw [Directive.toList, byteSize_append, byteSize_append]
  omega

/-! ## Directives and markers -/

/-- A directive is found in a text: its three parts are slices of the text, without gaps between
them, and its end marker is the first one of its name behind its start marker. -/
structure PlacedDirective.IsFoundIn (d : PlacedDirective) (cs : List Char) : Prop where
  startMarker_isSlice : IsSlice cs d.startMarker d.directive.startMarker
  body_isSlice : IsSlice cs d.body d.directive.body
  endMarker_isSlice : IsSlice cs d.endMarker d.directive.endMarker
  startMarker_stop : d.startMarker.stop = d.body.start
  body_stop : d.body.stop = d.endMarker.start
  isStartMarker : IsStartMarker d.directive.startMarker d.directive.name d.directive.args
  isEndMarker : IsEndMarker d.directive.endMarker d.directive.name
  not_isEndMarker : ∀ range marker, IsSlice cs range marker → d.body.start ≤ range.start →
    range.start < d.body.stop → ¬ IsEndMarker marker d.directive.name

/-- A start marker of the scan is that of a directive. -/
structure Document.ScannedStart.Opens (s : ScannedStart) (d : PlacedDirective) : Prop where
  range_eq : s.range = d.startMarker
  name_eq : s.marker.name = d.directive.name
  args_eq : s.marker.args = d.directive.args

/-- No end marker of its name follows a start marker of the scan. -/
def Document.ScannedStart.IsUnclosedIn (s : ScannedStart) (cs : List Char) : Prop :=
  ∀ range marker, IsSlice cs range marker → s.range.stop ≤ range.start →
    ¬ IsEndMarker marker s.marker.name

/-- Directives of a text that account for its start markers. -/
structure Accounts (cs : List Char) (starts : List ScannedStart) (ds : List PlacedDirective) :
    Prop where
  isFoundIn : ∀ d ∈ ds, d.IsFoundIn cs
  ordered : ds.Pairwise (fun d e => d.span.stop ≤ e.span.start)
  scanned : ∀ d ∈ ds, ∃ s ∈ starts, s.Opens d
  accounted : ∀ s ∈ starts, (∃ d ∈ ds, s.Opens d) ∨
    (∃ d ∈ ds, d.span.start < s.range.start ∧ s.range.start < d.span.stop) ∨ s.IsUnclosedIn cs

variable {cs : List Char}

theorem Document.IsCutBefore.isFoundIn {d : Directive} {rest : List Char} (h : IsCutBefore d rest)
    (front : List Char) :
    PlacedDirective.IsFoundIn ⟨d, byteSize front⟩ (front ++ (d.toList ++ rest)) where
  startMarker_isSlice :=
    ⟨front, d.body ++ (d.endMarker ++ rest), by simp [Directive.toList], rfl, byteSize_append ..⟩
  body_isSlice := by
    refine ⟨front ++ d.startMarker, d.endMarker ++ rest, by simp [Directive.toList],
      byteSize_append .., ?_⟩
    rw [byteSize_append, byteSize_append]
    rfl
  endMarker_isSlice := by
    refine ⟨front ++ d.startMarker ++ d.body, rest, by simp [Directive.toList], ?_, ?_⟩
    · rw [byteSize_append, byteSize_append]
      rfl
    · rw [byteSize_append, byteSize_append, byteSize_append]
      rfl
  startMarker_stop := rfl
  body_stop := rfl
  isStartMarker := h.isStartMarker
  isEndMarker := h.isEndMarker
  not_isEndMarker := by
    intro range marker hslice hle hlt hmarker
    have hsize : byteSize (front ++ d.startMarker) = byteSize front + byteSize d.startMarker :=
      byteSize_append ..
    have hstart : byteSize (front ++ d.startMarker) ≤ range.start := by
      rw [hsize]
      exact hle
    have hstop : range.start < byteSize (front ++ d.startMarker) + byteSize d.body := by
      rw [hsize]
      exact hlt
    have hassoc : front ++ (d.toList ++ rest) =
        front ++ d.startMarker ++ (d.body ++ (d.endMarker ++ rest)) := by simp [Directive.toList]
    rw [hassoc] at hslice
    obtain ⟨between, after, heq, hbetween⟩ := hslice.exists_of_le hstart
    rw [byteSize_append] at hbetween
    -- the marker begins with the last part of the body
    obtain ⟨behind, hbehind, htail⟩ := exists_of_byteSize_le heq.symm (by omega)
    have hne : behind ≠ [] := by
      rintro rfl
      rw [List.append_nil] at hbehind
      rw [hbehind] at hstop
      omega
    refine h.not_closes behind ⟨between, hbehind.symm⟩ hne ⟨after, ?_⟩
    rw [← htail]
    exact hmarker.endMarker?_append after

theorem isUnclosedIn_of_closing? {front rest name args : List Char} {range : ByteRange}
    (hstop : range.stop = byteSize front) (hclose : closing? name rest = none) :
    ScannedStart.IsUnclosedIn ⟨⟨name, args, rest⟩, range⟩ (front ++ rest) := by
  intro range' marker hslice hle hmarker
  have hfront : byteSize front ≤ range'.start := hstop ▸ hle
  obtain ⟨between, after, rfl, -⟩ := hslice.exists_of_le hfront
  exact closing?_eq_none_iff.1 hclose (marker ++ after) (List.suffix_append _ _)
    ⟨after, hmarker.endMarker?_append after⟩

namespace Accounts

variable {starts : List ScannedStart} {ds : List PlacedDirective}

theorem nil : Accounts cs [] [] := ⟨by simp, .nil, by simp, by simp⟩

/-- The scan comes to a start marker that is not closed. -/
theorem cons_unclosed (h : Accounts cs starts ds) {s : ScannedStart} (hs : s.IsUnclosedIn cs) :
    Accounts cs (s :: starts) ds where
  isFoundIn := h.isFoundIn
  ordered := h.ordered
  scanned := by
    intro d hd
    obtain ⟨s', hs', hopens⟩ := h.scanned d hd
    exact ⟨s', List.mem_cons_of_mem s hs', hopens⟩
  accounted := by
    intro s' hs'
    rcases List.mem_cons.1 hs' with rfl | hs'
    · exact .inr (.inr hs)
    · exact h.accounted s' hs'

/-- The scan comes to the start marker of a directive, and to others inside of the directive. -/
theorem cons_closed (h : Accounts cs starts ds) {s : ScannedStart} {d : PlacedDirective}
    {inside : List ScannedStart} (hs : s.Opens d) (hd : d.IsFoundIn cs)
    (hbehind : ∀ e ∈ ds, d.span.stop ≤ e.span.start)
    (hinside : ∀ s' ∈ inside, d.span.start < s'.range.start ∧ s'.range.start < d.span.stop) :
    Accounts cs (s :: (inside ++ starts)) (d :: ds) where
  isFoundIn := by
    intro e he
    rcases List.mem_cons.1 he with rfl | he
    · exact hd
    · exact h.isFoundIn e he
  ordered := .cons hbehind h.ordered
  scanned := by
    intro e he
    rcases List.mem_cons.1 he with rfl | he
    · exact ⟨s, List.mem_cons_self .., hs⟩
    · obtain ⟨s', hs', hopens⟩ := h.scanned e he
      exact ⟨s', List.mem_cons_of_mem s (List.mem_append_right inside hs'), hopens⟩
  accounted := by
    intro s' hs'
    rcases List.mem_cons.1 hs' with rfl | hs'
    · exact .inl ⟨d, List.mem_cons_self .., hs⟩
    · rcases List.mem_append.1 hs' with hs' | hs'
      · exact .inr (.inl ⟨d, List.mem_cons_self .., hinside s' hs'⟩)
      · rcases h.accounted s' hs' with ⟨e, he, hopens⟩ | ⟨e, he, hrange⟩ | hunclosed
        · exact .inl ⟨e, List.mem_cons_of_mem d he, hopens⟩
        · exact .inr (.inl ⟨e, List.mem_cons_of_mem d he, hrange⟩)
        · exact .inr (.inr hunclosed)

end Accounts

/-- What is found in the rest of a text accounts for the start markers of the rest. -/
theorem placedFrom_accounts (front cs : List Char) :
    Accounts (front ++ cs) (scanStarts (byteSize front) cs)
      (placedFrom (byteSize front) (ofList cs)) := by
  induction cs using cut_induction generalizing front with
  | nil =>
    rw [scanStarts, ofList]
    exact .nil
  | skip c cs hs ih =>
    have hsize : byteSize front + c.utf8Size = byteSize (front ++ [c]) := by simp
    have hsize' : byteSize front + byteSize [c] = byteSize (front ++ [c]) := by simp
    rw [scanStarts_cons_of_none hs, ofList_cons_of_none hs, placedFrom_consText, hsize, hsize',
      List.append_cons]
    exact ih (front ++ [c])
  | unclosed marker rest name args hs hc ih =>
    rw [scanStarts_append_of_some hs, ofList_of_unclosed hs hc, placedFrom_consText,
      ← byteSize_append, ← List.append_assoc]
    exact (ih (front ++ marker)).cons_unclosed (isUnclosedIn_of_closing? rfl hc)
  | directive d rest hd ih =>
    obtain ⟨inside, hscan, hinside⟩ := hd.scanStarts_eq (byteSize front)
    have hrest := ih (front ++ d.toList)
    rw [byteSize_append, List.append_assoc] at hrest
    have hstop := PlacedDirective.span_stop ⟨d, byteSize front⟩
    rw [hscan, hd.ofList_eq, placedFrom]
    refine hrest.cons_closed ⟨rfl, rfl, rfl⟩ (hd.isFoundIn front) (fun e he => ?_) (fun s hs => ?_)
    · rw [hstop]
      exact offset_le_of_mem_placedFrom he
    · rw [hstop]
      exact hinside s hs

/-- The directives of a text account for its start markers. They stand one behind the other, each
with its markers, its arguments and its body where its ranges say and with the first end marker of
its name. Every start marker that one comes to from left to right opens a directive, begins inside
of one, or has no end marker of its name behind it; and one comes to all of them, up to those that
begin within another. -/
theorem placed_accounts (text : String) :
    Accounts text.toList (scanStarts 0 text.toList) (ofText text).placed ∧
      IsScan text.toList (scanStarts 0 text.toList) :=
  ⟨placedFrom_accounts [] text.toList, isScan_scanStarts text.toList⟩

end NoteQuery
