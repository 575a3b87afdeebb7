import NoteQuery.Proofs.Scrubbing
import Mathlib.Data.List.Infix
import Mathlib.Logic.Function.Iterate

/-!
# Scanning a scrubbed text

Scrubbing looks for directives once and writes spaces over them. The spaces can make a marker out of
what stands around a directive: in `<!-- <!-- #a x --><!-- /a --> #query page -->` they stand where
a start marker may have blanks. So a scrubbed text can have a directive of its own, and to scrub it
again can change it again (`scrubText_not_complete`).

If no marker of the scrubbed text begins in front of a directive and ends behind it
(`CompletesNoMarker`), the scrubbed text has no directive. What has to be seen is that a marker of
the scrubbed text is then one of the text itself (`exists_append_of_scrubbed`), so that

* a start marker that is not closed stays unclosed (`not_closes_scrubbed`);
* no start marker is read where none was (`startMarker?_scrubbed_eq_none`).

Whatever is completed, scrubbing again and again ends with a text without directives
(`exists_iterate_scrubText`).
-/

namespace NoteQuery

open Text

namespace Document

/-! ## Directives left -/

@[simp] theorem directives_consText (cs : List Char) (document : Document) :
    (consText cs document).directives = document.directives := by
  unfold consText
  split <;> rfl

@[simp] theorem scrubbed_consText (cs : List Char) (document : Document) :
    (consText cs document).scrubbed = cs ++ document.scrubbed := by
  unfold consText
  split <;> simp

theorem scrubbed_of_directives_eq_nil {document : Document} (h : document.directives = []) :
    document.scrubbed = document.toList := by
  induction document with
  | nil => rfl
  | cons piece document ih =>
    cases piece with
    | text cs => rw [scrubbed_text, toList_cons, ih h, Piece.toList]
    | directive d => exact absurd h (List.cons_ne_nil d _)

theorem startMarker?_space (cs : List Char) : startMarker? (' ' :: cs) = none := by
  simp [startMarker?, afterSign?, after?, commentStart]

theorem not_closes_space (name cs : List Char) : ¬ Closes name (' ' :: cs) := by
  rintro ⟨rest, h⟩
  simp [endMarker?, afterSign?, after?, commentStart] at h

/-- Spaces in front of a text make no directive. -/
theorem directives_ofList_spaces (n : Nat) (cs : List Char) :
    (ofList (List.replicate n ' ' ++ cs)).directives = (ofList cs).directives := by
  induction n with
  | zero => rfl
  | succ n ih =>
    rw [List.replicate_succ, List.cons_append, ofList_cons_of_none (startMarker?_space _),
      directives_consText, ih]

/-- A text in which no comment ends has no directive. -/
theorem directives_ofList_of_lacks_commentEnd {cs : List Char} (h : ¬ commentEnd <:+: cs) :
    (ofList cs).directives = [] := by
  rw [List.eq_nil_iff_forall_not_mem]
  intro d hd
  rw [mem_directives_iff] at hd
  obtain ⟨before, after, hpieces⟩ := List.append_of_mem hd
  obtain ⟨rest, hcut⟩ := exists_isCutBefore_of_mem hd
  obtain ⟨inner, hmarker⟩ := hcut.isEndMarker.eq_comment
  refine h
    ⟨toList before ++ (d.startMarker ++ (d.body ++ (commentStart ++ inner))), toList after, ?_⟩
  rw [← toList_ofList cs, hpieces]
  simp [toList, Piece.toList, Directive.toList, hmarker]

/-! ## Markers that are completed -/

/-- A marker is read at the front of a text, in front of its last part. -/
def ReadsMarker (cs behind : List Char) : Prop :=
  (∃ m ∈ startMarker? cs, m.rest = behind) ∨ ∃ m ∈ endMarker? cs, m.rest = behind

/-- A marker is read at the front of a text, and it ends where a last part of the text begins, or
behind that place. -/
def MarkerReaches (cs behind : List Char) : Prop :=
  (∃ m ∈ startMarker? cs, m.rest <:+ behind) ∨ ∃ m ∈ endMarker? cs, m.rest <:+ behind

instance (cs behind : List Char) : Decidable (MarkerReaches cs behind) :=
  inferInstanceAs (Decidable (_ ∨ _))

/-- Blanking completes no marker: no marker of the scrubbed document begins in front of a directive
and ends behind it. -/
def CompletesNoMarker (document : Document) : Prop :=
  ∀ before d after, document = before ++ .directive d :: after →
    ∀ part, part <:+ scrubbed before →
      ¬ MarkerReaches (part ++ (blanked d.toList ++ scrubbed after)) (scrubbed after)

section

variable {document : Document}

/-- Text in front of a document can begin a marker that ends in it. -/
theorem completesNoMarker_text_iff {cs : List Char} :
    CompletesNoMarker (.text cs :: document) ↔
      ∀ before d after, document = before ++ .directive d :: after →
        ∀ part, part <:+ cs ++ scrubbed before →
          ¬ MarkerReaches (part ++ (blanked d.toList ++ scrubbed after)) (scrubbed after) := by
  constructor
  · exact fun h before d after hpieces part => h (.text cs :: before) d after
      (by rw [hpieces]; rfl) part
  · intro h before d after hpieces
    rcases List.cons_eq_append_iff.1 hpieces with ⟨-, hfirst⟩ | ⟨before', rfl, hrest⟩
    · simp at hfirst
    · exact h before' d after hrest

theorem completesNoMarker_text_nil_iff :
    CompletesNoMarker (.text [] :: document) ↔ CompletesNoMarker document :=
  completesNoMarker_text_iff

theorem completesNoMarker_singleton (cs : List Char) : CompletesNoMarker [.text cs] :=
  completesNoMarker_text_iff.2 (fun before d after hpieces => by simp at hpieces)

theorem completesNoMarker_text_text_iff {cs ds : List Char} :
    CompletesNoMarker (.text cs :: .text ds :: document) ↔
      CompletesNoMarker (.text (cs ++ ds) :: document) := by
  rw [completesNoMarker_text_iff, completesNoMarker_text_iff]
  constructor
  · intro h before d after hpieces part hpart
    refine h (.text ds :: before) d after (by rw [hpieces]; rfl) part ?_
    rwa [scrubbed_text, ← List.append_assoc]
  · intro h before d after hpieces part hpart
    rcases List.cons_eq_append_iff.1 hpieces with ⟨-, hfirst⟩ | ⟨before', rfl, hrest⟩
    · simp at hfirst
    · rw [scrubbed_text, ← List.append_assoc] at hpart
      exact h before' d after hrest part hpart

theorem completesNoMarker_text_directive_iff {cs : List Char} {d : Directive} :
    CompletesNoMarker (.text cs :: .directive d :: document) ↔
      (∀ part ∈ cs.tails, ¬ MarkerReaches (part ++ (blanked d.toList ++ scrubbed document))
        (scrubbed document)) ∧
      CompletesNoMarker (.text (cs ++ blanked d.toList) :: document) := by
  rw [completesNoMarker_text_iff, completesNoMarker_text_iff]
  constructor
  · refine fun h => ⟨fun part hpart => ?_, fun before e after hpieces part hpart => ?_⟩
    · rw [List.mem_tails] at hpart
      exact h [] d document rfl part (by simpa using hpart)
    · refine h (.directive d :: before) e after (by rw [hpieces]; rfl) part ?_
      rwa [scrubbed_directive, ← List.append_assoc]
  · rintro ⟨hfirst, hothers⟩ before e after hpieces part hpart
    rcases List.cons_eq_append_iff.1 hpieces with ⟨rfl, heq⟩ | ⟨before', rfl, hrest⟩
    · obtain ⟨hd, rfl⟩ := List.cons.inj heq
      obtain rfl := Piece.directive.inj hd
      exact hfirst part ((List.mem_tails _ _).2 (by simpa using hpart))
    · rw [scrubbed_directive, ← List.append_assoc] at hpart
      exact hothers before' e after hrest part hpart

/-- Directive by directive, with the text in front of each. -/
def decidableCompletesNoMarker (cs : List Char) :
    (document : Document) → Decidable (CompletesNoMarker (.text cs :: document))
  | [] => isTrue (completesNoMarker_singleton cs)
  | .text ds :: document =>
    have := decidableCompletesNoMarker (cs ++ ds) document
    decidable_of_iff _ completesNoMarker_text_text_iff.symm
  | .directive d :: document =>
    have := decidableCompletesNoMarker (cs ++ blanked d.toList) document
    decidable_of_iff _ completesNoMarker_text_directive_iff.symm

instance (document : Document) : Decidable (CompletesNoMarker document) :=
  have := decidableCompletesNoMarker [] document
  decidable_of_iff _ completesNoMarker_text_nil_iff

namespace CompletesNoMarker

theorem tail {piece : Piece} (h : CompletesNoMarker (piece :: document)) :
    CompletesNoMarker document := by
  intro before d after hpieces part hpart
  refine h (piece :: before) d after (by rw [hpieces]; rfl) part (hpart.trans ?_)
  exact ⟨piece.scrubbed.toList, rfl⟩

theorem of_consText {cs : List Char} (h : CompletesNoMarker (consText cs document)) :
    CompletesNoMarker (.text cs :: document) := by
  cases document with
  | nil => exact h
  | cons piece document =>
    cases piece with
    | directive d => exact h
    | text others => exact completesNoMarker_text_text_iff.2 h

/-- A marker that is read in the text in front of a document does not reach behind a directive of
the document. -/
theorem not_suffix {cs part behind : List Char} (h : CompletesNoMarker (.text cs :: document))
    (hpart : part <:+ cs) (hread : ReadsMarker (part ++ scrubbed document) behind)
    {before after : Document} {d : Directive}
    (hpieces : document = before ++ .directive d :: after) : ¬ behind <:+ scrubbed after := by
  intro hbehind
  have hscrubbed : part ++ scrubbed document =
      (part ++ scrubbed before) ++ (blanked d.toList ++ scrubbed after) := by
    rw [hpieces]
    simp [scrubbed, toList, Piece.scrubbed, Piece.toList]
  obtain ⟨front, rfl⟩ := hpart
  refine completesNoMarker_text_iff.1 h before d after hpieces (part ++ scrubbed before)
    ⟨front, by simp⟩ ?_
  rw [← hscrubbed]
  rcases hread with ⟨m, hm, rfl⟩ | ⟨m, hm, rfl⟩
  · exact .inl ⟨m, hm, hbehind⟩
  · exact .inr ⟨m, hm, hbehind⟩

end CompletesNoMarker

end

/-! ## Markers of a scrubbed text -/

/-- What ends with `>` in a scrubbed document, and behind none of its directives, stands in the
document too. -/
theorem exists_append_of_scrubbed {document : Document} {part inner behind : List Char}
    (h : part ++ scrubbed document = inner ++ '>' :: behind)
    (hends : ∀ before d after, document = before ++ .directive d :: after →
      ¬ behind <:+ scrubbed after) :
    ∃ rest, part ++ document.toList = inner ++ '>' :: rest := by
  induction document generalizing part with
  | nil => exact ⟨behind, h⟩
  | cons piece document ih =>
    cases piece with
    | text cs =>
      have hassoc : (part ++ cs) ++ scrubbed document = inner ++ '>' :: behind := by
        rw [List.append_assoc]
        exact h
      obtain ⟨rest, hrest⟩ := ih hassoc
        (fun before d after hpieces => hends (.text cs :: before) d after (by rw [hpieces]; rfl))
      exact ⟨rest, by rw [← hrest, List.append_assoc]; rfl⟩
    | directive d =>
      have hfar : ¬ behind <:+ scrubbed document := hends [] d document rfl
      rw [scrubbed_directive, ← List.append_assoc] at h
      rcases List.append_eq_append_iff.1 h with ⟨more, -, hmore⟩ | ⟨more, hfront, hmore⟩
      · -- the `>` would stand behind the directive
        exact absurd ⟨more ++ ['>'], by rw [hmore]; simp⟩ hfar
      · cases more with
        | nil => exact absurd ⟨['>'], by simpa using hmore⟩ hfar
        | cons c more =>
          obtain ⟨rfl, -⟩ := List.cons.inj hmore
          -- nor is it one of the spaces
          have hspaces : '>' ∉ blanked d.toList := fun hmem =>
            absurd (List.eq_of_mem_replicate hmem) (by decide)
          rcases List.append_eq_append_iff.1 hfront with ⟨lead, -, hlead⟩ | ⟨between, hpart, hlead⟩
          · exact absurd (by rw [hlead]; simp) hspaces
          · cases between with
            | nil => exact absurd (by rw [← List.nil_append (blanked _), ← hlead]; simp) hspaces
            | cons c between =>
              obtain ⟨rfl, -⟩ := List.cons.inj hlead
              exact ⟨between ++ toList (.directive d :: document), by rw [hpart]; simp⟩

/-- A marker that is read in the text in front of a scrubbed document stands in front of the
document too. -/
theorem CompletesNoMarker.exists_append {document : Document} {cs part marker behind : List Char}
    (h : CompletesNoMarker (.text cs :: document)) (hpart : part <:+ cs)
    (hread : ReadsMarker (part ++ scrubbed document) behind)
    (hmarker : ∃ inner, marker = commentStart ++ (inner ++ commentEnd))
    (heq : part ++ scrubbed document = marker ++ behind) :
    ∃ rest, part ++ toList document = marker ++ rest := by
  obtain ⟨inner, rfl⟩ := hmarker
  have hends :
      part ++ scrubbed document = (commentStart ++ (inner ++ ['-', '-'])) ++ '>' :: behind := by
    rw [heq]
    simp [commentEnd]
  obtain ⟨rest, hrest⟩ := exists_append_of_scrubbed hends
    (fun before d after hpieces => h.not_suffix hpart hread hpieces)
  exact ⟨rest, by rw [hrest]; simp [commentEnd]⟩

/-- No start marker is completed. -/
theorem startMarker?_scrubbed_eq_none {document : Document} {part : List Char}
    (h : CompletesNoMarker (.text part :: document))
    (hnone : startMarker? (part ++ document.toList) = none) :
    startMarker? (part ++ document.scrubbed) = none := by
  by_contra hsome
  obtain ⟨m, hm⟩ := Option.ne_none_iff_exists'.1 hsome
  obtain ⟨marker, hmarker, heq⟩ := exists_isStartMarker_of_startMarker? hm
  obtain ⟨rest, hrest⟩ := h.exists_append List.suffix_rfl (.inl ⟨m, hm, rfl⟩) hmarker.eq_comment heq
  obtain ⟨args, rest', hread⟩ := hmarker.exists_startMarker?_append rest
  rw [hrest, hread] at hnone
  cases hnone

/-- No end marker is completed. -/
theorem not_closes_scrubbed {document : Document} {name : List Char}
    (h : CompletesNoMarker document)
    (hnone : ∀ behind, behind <:+ document.toList → ¬ Closes name behind) {behind : List Char}
    (hbehind : behind <:+ scrubbed document) : ¬ Closes name behind := by
  induction document with
  | nil => exact hnone behind hbehind
  | cons piece document ih =>
    have hnone' : ∀ behind, behind <:+ toList document → ¬ Closes name behind :=
      fun behind hb => hnone behind (hb.trans ⟨piece.toList, rfl⟩)
    cases piece with
    | directive d =>
      rcases suffix_append_cases hbehind with hbehind | ⟨part, hne, hpart, rfl⟩
      · exact ih h.tail hnone' hbehind
      · obtain ⟨c, part, rfl⟩ := List.exists_cons_of_ne_nil hne
        obtain rfl : c = ' ' := List.eq_of_mem_replicate (hpart.subset (List.mem_cons_self ..))
        exact not_closes_space name _
    | text cs =>
      rcases suffix_append_cases hbehind with hbehind | ⟨part, -, hpart, rfl⟩
      · exact ih h.tail hnone' hbehind
      · rintro ⟨behind, hm⟩
        obtain ⟨marker, hmarker, heq⟩ := exists_isEndMarker_of_endMarker? hm
        obtain ⟨rest, hrest⟩ := h.exists_append hpart (.inr ⟨_, hm, rfl⟩) hmarker.eq_comment heq
        have hsuffix : part ++ toList document <:+ toList (.text cs :: document) := by
          obtain ⟨front, rfl⟩ := hpart
          exact ⟨front, by simp [Piece.toList]⟩
        refine hnone _ hsuffix ⟨rest, ?_⟩
        rw [hrest]
        exact hmarker.endMarker?_append rest

/-- If blanking completes no marker, the scrubbed text has no directive. -/
theorem directives_ofList_scrubbed {cs : List Char} (h : CompletesNoMarker (ofList cs)) :
    (ofList (scrubbed (ofList cs))).directives = [] := by
  induction cs using cut_induction with
  | nil => simp [ofList, directives]
  | skip c cs hs ih =>
    rw [ofList_cons_of_none hs] at h ⊢
    have hnone : startMarker? (c :: scrubbed (ofList cs)) = none :=
      startMarker?_scrubbed_eq_none h.of_consText (by rw [toList_ofList]; exact hs)
    rw [scrubbed_consText, List.singleton_append, ofList_cons_of_none hnone, directives_consText]
    exact ih h.of_consText.tail
  | unclosed marker rest name args hs hc ih =>
    rw [ofList_of_unclosed hs hc] at h ⊢
    rw [scrubbed_consText]
    have htail := h.of_consText.tail
    have hs' : startMarker? (marker ++ scrubbed (ofList rest)) =
        some ⟨name, args, scrubbed (ofList rest)⟩ := by
      rcases startMarker?_exchange hs with hany | hend
      · exact hany _
      · -- no comment ends behind the marker, so there is nothing to scrub
        rw [scrubbed_of_directives_eq_nil (directives_ofList_of_lacks_commentEnd hend),
          toList_ofList]
        exact hs
    have hc' : closing? name (scrubbed (ofList rest)) = none := by
      rw [closing?_eq_none_iff] at hc ⊢
      exact fun behind => not_closes_scrubbed htail (by rwa [toList_ofList])
    rw [ofList_of_unclosed hs' hc', directives_consText]
    exact ih htail
  | directive d rest hd ih =>
    rw [hd.ofList_eq] at h ⊢
    rw [scrubbed_directive]
    exact (directives_ofList_spaces _ _).trans (ih h.tail)

/-! ## Scrubbing again -/

/-- Each directive takes a `<` with it. -/
theorem count_scrubbed_add_le (cs : List Char) :
    (scrubbed (ofList cs)).count '<' + (ofList cs).directives.length ≤ cs.count '<' := by
  induction cs using cut_induction with
  | nil => simp [ofList, directives]
  | skip c cs hs ih =>
    rw [ofList_cons_of_none hs, scrubbed_consText, directives_consText, List.count_append,
      List.count_singleton, List.count_cons]
    omega
  | unclosed marker rest name args hs hc ih =>
    rw [ofList_of_unclosed hs hc, scrubbed_consText, directives_consText, List.count_append,
      List.count_append]
    omega
  | directive d rest hd ih =>
    have hspaces : (blanked d.toList).count '<' = 0 := by
      rw [blanked, List.count_replicate]
      rfl
    have hstart : 0 < d.toList.count '<' := by
      obtain ⟨inner, hmarker⟩ := hd.isStartMarker.eq_comment
      rw [List.count_pos_iff, Directive.toList, hmarker]
      simp [commentStart]
    have hlength : (directives (.directive d :: ofList rest)).length =
        (ofList rest).directives.length + 1 := rfl
    rw [hd.ofList_eq, scrubbed_directive, hlength, List.count_append, List.count_append, hspaces]
    omega

theorem count_scrubText_add_le (text : String) :
    (scrubText text).toList.count '<' + (ofText text).directives.length ≤
      text.toList.count '<' := by
  rw [toList_scrubText]
  exact count_scrubbed_add_le text.toList

/-- Scrubbing leaves a text alone exactly if the text has no directive. -/
theorem scrubText_eq_self_iff (text : String) :
    scrubText text = text ↔ (ofText text).directives = [] := by
  constructor
  · intro h
    have hle := count_scrubText_add_le text
    rw [h] at hle
    exact List.length_eq_zero_iff.1 (by omega)
  · intro h
    rw [← String.toList_inj, toList_scrubText, scrubbed_of_directives_eq_nil h]
    exact toList_ofList text.toList

/-- Scrubbing again and again ends with a text without directives. -/
theorem exists_iterate_scrubText (text : String) :
    ∃ n, (ofText (scrubText^[n] text)).directives = [] := by
  induction hcount : text.toList.count '<' using Nat.strong_induction_on generalizing text with
  | _ count ih =>
    by_cases hnone : (ofText text).directives = []
    · exact ⟨0, hnone⟩
    · have hlength := List.length_pos_of_ne_nil hnone
      have hle := count_scrubText_add_le text
      obtain ⟨n, hn⟩ := ih _ (by omega) (scrubText text) rfl
      exact ⟨n + 1, hn⟩

/-- If blanking completes no marker, a scrubbed text has no directive, and scrubbing it again leaves
it as it is. In any case scrubbing it again leaves it as it is exactly if it has no directive. -/
theorem scrubText_complete (text : String) :
    (CompletesNoMarker (ofText text) →
        (ofText (scrubText text)).directives = [] ∧ scrubText (scrubText text) = scrubText text) ∧
      (scrubText (scrubText text) = scrubText text ↔
        (ofText (scrubText text)).directives = []) := by
  have hiff := scrubText_eq_self_iff (scrubText text)
  refine ⟨fun h => ?_, hiff⟩
  have hnone : (ofText (scrubText text)).directives = [] := by
    rw [ofText, toList_scrubText]
    exact directives_ofList_scrubbed h
  exact ⟨hnone, hiff.2 hnone⟩

/-- A hyphen behind the directive keeps its spaces from completing the start marker around it. The
start marker at the front is not closed, neither before nor after. -/
theorem scrubText_complete_hyphen :
    let text := "<!-- #a x --> <!-- <!-- #b y -->é<!-- /b --> - #query page --> <!-- /query -->"
    CompletesNoMarker (ofText text) ∧ (ofText text).directives.length = 1 ∧
      (ofText (scrubText text)).directives = [] ∧ scrubText (scrubText text) = scrubText text := by
  intro text
  have hcompletes : CompletesNoMarker (ofText text) := by decide +kernel
  have hone : (ofText text).directives.length = 1 := by decide +kernel
  exact ⟨hcompletes, hone, (scrubText_complete text).1 hcompletes⟩

/-- Spaces that stand for a directive complete the start marker around it. -/
theorem scrubText_not_complete :
    let text := "<!--<!-- #a x --><!-- /a -->#query page -->x<!-- /query -->"
    (ofText (scrubText text)).directives = [⟨"query".toList, "page ".toList,
        "<!--                        #query page -->".toList, ['x'], "<!-- /query -->".toList⟩] ∧
      ¬ (∀ text, (ofText (scrubText text)).directives = []) ∧
      ¬ ∀ text, scrubText (scrubText text) = scrubText text := by
  intro text
  have hleft : (ofText (scrubText text)).directives = [⟨"query".toList, "page ".toList,
      "<!--                        #query page -->".toList, ['x'], "<!-- /query -->".toList⟩] := by
    decide +kernel
  have hne : (ofText (scrubText text)).directives ≠ [] := by rw [hleft]; exact List.cons_ne_nil _ _
  exact ⟨hleft, fun h => hne (h text), fun h => hne ((scrubText_eq_self_iff _).1 (h text))⟩

end Document

end NoteQuery
