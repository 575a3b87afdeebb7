import NoteQuery.Document.Evaluation
import NoteQuery.Proofs.Cutting
import Mathlib.Data.List.Forall2
import Mathlib.Data.List.Infix

/-!
# Exchanging bodies

Evaluation overwrites the bodies of the query directives. A document whose query bodies have been
exchanged for other texts is cut into the same pieces, up to these bodies, if no new body holds an
end marker that could close something: one of a query, or one with the name of a start marker that
stands outside of the directives (`ofList_toList_of_exchanged`). Texts that open no comment hold no
marker at all (`ofList_toList_of_sameButBodies`). What has to be seen is that no marker is found or
lost across the border of a body:

* an end marker that begins in front of a body ends there, because the start marker in front of the
  body ends with `>` (`closing?_eq_none_of_exchanged`);
* a start marker that begins in front of a directive is decided by what stands up to the end of the
  directive's own start marker (`startMarker?_eq_none_of_exchanged`);
* an end marker that begins inside of a body ends there, because the end marker behind the body
  begins with `<` (`not_closes_of_not_holdsEnd`). Start markers inside of a body are not looked for.
-/

namespace NoteQuery

open Text

namespace Document

/-! ## Borders of bodies -/

/-- A text that opens a comment nowhere. -/
def OpensNone (cs : List Char) : Prop := ¬ commentStart <:+: cs

/-- An end marker with a name stands somewhere in a text. -/
def HoldsEnd (name cs : List Char) : Prop := ∃ marker, IsEndMarker marker name ∧ marker <:+: cs

/-- A start marker with a name stands somewhere in the text around the directives. -/
def HoldsStart (name : List Char) (document : Document) : Prop :=
  ∃ cs marker args, Piece.text cs ∈ document ∧ IsStartMarker marker name args ∧ marker <:+: cs

/-- Names of the start markers that stand in the text around the directives. -/
def openNames (document : Document) : List (List Char) :=
  document.flatMap (fun piece =>
    match piece with
    | .text cs => cs.tails.filterMap (fun behind => (startMarker? behind).map StartMarker.name)
    | .directive _ => [])

theorem holdsEnd_iff {name cs : List Char} :
    HoldsEnd name cs ↔ ∃ behind ∈ cs.tails, (endMarker? behind).map EndMarker.name = some name := by
  constructor
  · rintro ⟨marker, hmarker, before, after, rfl⟩
    refine ⟨marker ++ after, (List.mem_tails _ _).2 ⟨before, by simp⟩, ?_⟩
    rw [hmarker.endMarker?_append after]
    rfl
  · rintro ⟨behind, hmem, hname⟩
    obtain ⟨m, hm, rfl⟩ := Option.map_eq_some_iff.1 hname
    obtain ⟨marker, hmarker, rfl⟩ := exists_isEndMarker_of_endMarker? hm
    exact ⟨marker, hmarker,
      (List.prefix_append _ _).isInfix.trans ((List.mem_tails _ _).1 hmem).isInfix⟩

instance (name cs : List Char) : Decidable (HoldsEnd name cs) :=
  decidable_of_iff _ holdsEnd_iff.symm

theorem holdsStart_iff {name : List Char} {document : Document} :
    HoldsStart name document ↔ name ∈ document.openNames := by
  unfold openNames
  rw [List.mem_flatMap]
  constructor
  · rintro ⟨cs, marker, args, hmem, hmarker, before, after, rfl⟩
    obtain ⟨args', rest', hm⟩ := hmarker.exists_startMarker?_append after
    have htail : marker ++ after ∈ (before ++ marker ++ after).tails :=
      (List.mem_tails _ _).2 ⟨before, by simp⟩
    refine ⟨_, hmem, List.mem_filterMap.2 ⟨marker ++ after, htail, ?_⟩⟩
    rw [hm]
    rfl
  · rintro ⟨piece, hmem, hname⟩
    cases piece with
    | directive d => simp at hname
    | text cs =>
      obtain ⟨behind, htail, hname⟩ := List.mem_filterMap.1 hname
      obtain ⟨m, hm, rfl⟩ := Option.map_eq_some_iff.1 hname
      obtain ⟨marker, hmarker, rfl⟩ := exists_isStartMarker_of_startMarker? hm
      exact ⟨cs, marker, m.args, hmem, hmarker,
        (List.prefix_append _ _).isInfix.trans ((List.mem_tails _ _).1 htail).isInfix⟩

theorem not_holdsEnd_of_opensNone {cs : List Char} (h : OpensNone cs) (name : List Char) :
    ¬ HoldsEnd name cs := by
  rintro ⟨marker, hmarker, hin⟩
  obtain ⟨inner, rfl⟩ := hmarker.eq_comment
  exact h ((List.prefix_append _ _).isInfix.trans hin)

/-- An end marker that begins in front of a `>` does not depend on what follows that character. -/
theorem closes_append_iff {front : List Char} (hfront : '>' ∈ front) (name rest other : List Char) :
    Closes name (front ++ rest) ↔ Closes name (front ++ other) := by
  obtain ⟨lead, tail, rfl, hlead⟩ := List.eq_append_cons_of_mem hfront
  obtain ⟨name?, hname⟩ := endMarker?_append hlead
  have hcloses : ∀ more, Closes name (lead ++ '>' :: tail ++ more) ↔ name? = some name := by
    intro more
    unfold Closes
    rw [List.append_assoc, List.cons_append, hname]
    cases name? <;> simp
  rw [hcloses, hcloses]

/-- What follows an end marker can be exchanged. -/
theorem endMarker?_exchange {front name rest : List Char}
    (h : endMarker? (front ++ rest) = some ⟨name, rest⟩) (other : List Char) :
    endMarker? (front ++ other) = some ⟨name, other⟩ := by
  obtain ⟨inner, heq⟩ := eq_append_of_endMarker? h
  have hfront : front = commentStart ++ (inner ++ commentEnd) := by
    refine (List.append_left_inj rest).1 ?_
    rw [heq]
    simp
  have hgt : '>' ∈ front := by
    rw [hfront]
    simp [commentEnd]
  obtain ⟨lead, tail, rfl, hlead⟩ := List.eq_append_cons_of_mem hgt
  obtain ⟨name?, hname⟩ := endMarker?_append hlead
  rw [List.append_assoc, List.cons_append, hname] at h ⊢
  obtain ⟨name', rfl, hmarker⟩ := Option.map_eq_some_iff.1 h
  obtain ⟨rfl, htail⟩ := EndMarker.mk.inj hmarker
  -- the marker ends at the first `>`, so nothing of `front` stands behind it
  obtain rfl : tail = [] := List.append_left_eq_self.1 htail
  rfl

/-- An end marker that begins inside of a body does not end behind it. -/
theorem not_closes_of_not_holdsEnd {name body behind : List Char} (hbody : ¬ HoldsEnd name body)
    (hb : behind <:+ body) (hne : behind ≠ []) (rest : List Char) :
    ¬ Closes name (behind ++ (commentStart ++ rest)) := by
  rintro ⟨rest', h⟩
  obtain ⟨marker, hmarker, heq⟩ := exists_isEndMarker_of_endMarker? h
  rcases List.append_eq_append_iff.1 heq with ⟨beyond, hbeyond, hrest⟩ | ⟨beyond, hbeyond, -⟩
  · cases beyond with
    | nil =>
      rw [List.append_nil] at hbeyond
      exact hbody ⟨marker, hmarker, hbeyond ▸ hb.isInfix⟩
    | cons c beyond =>
      -- its only `<` is the one at its front
      obtain ⟨rfl, -⟩ := List.cons.inj hrest
      obtain ⟨inner, rfl, hlt, -⟩ := hmarker.eq_cons
      obtain ⟨d, behind, rfl⟩ := List.exists_cons_of_ne_nil hne
      have hmem : '<' ∈ inner ++ commentEnd := by
        rw [(List.cons.inj hbeyond).2]
        simp
      simp [hlt, commentEnd] at hmem
  · have hpre : marker <+: behind := ⟨beyond, hbeyond.symm⟩
    exact hbody ⟨marker, hmarker, hpre.isInfix.trans hb.isInfix⟩

/-! ## Directives between comments -/

/-- The markers of a directive are whole comments. -/
structure WellMarked (d : Directive) : Prop where
  startMarker_eq : ∃ inner, d.startMarker = commentStart ++ (inner ++ commentEnd)
  endMarker_eq : ∃ inner, d.endMarker = commentStart ++ (inner ++ commentEnd)

theorem IsCutBefore.wellMarked {d : Directive} {rest : List Char} (h : IsCutBefore d rest) :
    WellMarked d := ⟨h.isStartMarker.eq_comment, h.isEndMarker.eq_comment⟩

theorem wellMarked_of_mem_ofList {cs : List Char} {d : Directive}
    (h : Piece.directive d ∈ ofList cs) : WellMarked d := by
  obtain ⟨rest, hd⟩ := exists_isCutBefore_of_mem h
  exact hd.wellMarked

/-- No end marker of a directive's own name stands in its body. -/
theorem IsCutBefore.not_holdsEnd {d : Directive} {rest : List Char} (h : IsCutBefore d rest) :
    ¬ HoldsEnd d.name d.body := by
  rintro ⟨marker, hmarker, before, after, heq⟩
  have hne : marker ++ after ≠ [] := by
    obtain ⟨inner, rfl, -⟩ := hmarker.eq_cons
    simp
  refine h.not_closes (marker ++ after) ⟨before, by simpa using heq⟩ hne
    ⟨after ++ (d.endMarker ++ rest), ?_⟩
  rw [List.append_assoc]
  exact hmarker.endMarker?_append _

/-! ## Documents that differ in their query bodies -/

/-- A piece, or a query directive with another body of a kind that is allowed. -/
inductive Exchanged (allowed : List Char → Prop) : Piece → Piece → Prop
  | same (piece : Piece) : Exchanged allowed piece piece
  | body {d : Directive} {body : List Char} (hquery : d.isQuery = true) (hbody : allowed body) :
    Exchanged allowed (.directive d) (.directive { d with body })

/-- The same pieces, up to query bodies that open no comment. -/
abbrev SameButBodies (document other : Document) : Prop :=
  List.Forall₂ (Exchanged OpensNone) document other

/-- The text of a directive with another body, in front of more text. -/
theorem toList_exchange_append (d : Directive) (body more : List Char) :
    (Piece.directive { d with body }).toList ++ more =
      d.startMarker ++ (body ++ (d.endMarker ++ more)) := by
  simp [Piece.toList, Directive.toList]

section

variable {allowed : List Char → Prop}

/-- Text that stands in front of one of two such documents stands in front of the other. -/
theorem exists_consText_of_exchanged {cs : List Char} {document other : Document}
    (h : List.Forall₂ (Exchanged allowed) (consText cs document) other) :
    ∃ rest, other = consText cs rest ∧ List.Forall₂ (Exchanged allowed) document rest := by
  unfold consText at h
  split at h
  · rename_i others pieces
    cases h with
    | cons hpiece hrest =>
      cases hpiece
      exact ⟨_, rfl, List.Forall₂.cons (.same _) hrest⟩
  · rename_i htext
    cases h with
    | cons hpiece hrest =>
      cases hpiece
      refine ⟨_, ?_, hrest⟩
      -- the exchange turns no directive into text
      cases hrest with
      | nil => rfl
      | @cons piece _ _ _ hp _ =>
        cases hp with
        | body => rfl
        | same =>
          cases piece with
          | text cs => exact absurd rfl (htext cs _)
          | directive d => rfl

theorem closing?_eq_none_of_exchanged {document other : Document}
    (hmarked : ∀ d, Piece.directive d ∈ document → WellMarked d)
    (h : List.Forall₂ (Exchanged allowed) document other) {name front : List Char}
    (hallowed : ∀ body, allowed body → ¬ HoldsEnd name body)
    (hnone : closing? name (front ++ document.toList) = none) :
    closing? name (front ++ other.toList) = none := by
  induction h generalizing front with
  | nil => exact hnone
  | @cons piece piece' document other hpiece hrest ih =>
    have ih := fun front => @ih (fun d hd => hmarked d (List.mem_cons_of_mem _ hd)) front
    rw [toList_cons, ← List.append_assoc] at hnone ⊢
    cases hpiece with
    | same => exact ih _ hnone
    | @body d body hquery hbody =>
      have hwell := hmarked d (List.mem_cons_self ..)
      obtain ⟨inner, hstart⟩ := hwell.startMarker_eq
      obtain ⟨inner', hend⟩ := hwell.endMarker_eq
      have hold := toList_exchange_append d d.body (toList document)
      rw [List.append_assoc, hold, ← List.append_assoc, closing?_eq_none_iff] at hnone
      rw [List.append_assoc, toList_exchange_append, ← List.append_assoc, closing?_eq_none_iff]
      -- the marker that would close begins in one of three places
      intro behind hb hcloses
      rcases suffix_append_cases hb with hb | ⟨part, hne, hpart, rfl⟩
      · rcases suffix_append_cases hb with hb | ⟨part, hne, hpart, rfl⟩
        · -- behind the body
          have hrest : closing? name (d.endMarker ++ toList document) = none := by
            refine closing?_eq_none_iff.2 (fun s hs => hnone s ?_)
            exact (hs.trans (List.suffix_append _ _)).trans (List.suffix_append _ _)
          exact closing?_eq_none_iff.1 (ih _ hrest) behind hb hcloses
        · -- inside of the body
          rw [hend, List.append_assoc] at hcloses
          exact not_closes_of_not_holdsEnd (hallowed body hbody) hpart hne _ hcloses
      · -- in front of the body
        have hgt : '>' ∈ part := by
          rw [hstart, ← List.append_assoc, ← List.append_assoc] at hpart
          exact gt_mem_of_suffix hpart hne
        rw [closes_append_iff hgt name _ (d.body ++ (d.endMarker ++ toList document))] at hcloses
        refine hnone _ ?_ hcloses
        obtain ⟨lead, hlead⟩ := hpart
        exact ⟨lead, by rw [← hlead, List.append_assoc]⟩

theorem startMarker?_eq_none_of_exchanged {document other : Document}
    (hmarked : ∀ d, Piece.directive d ∈ document → WellMarked d)
    (h : List.Forall₂ (Exchanged allowed) document other) {front : List Char} (hfront : front ≠ [])
    (hnone : startMarker? (front ++ document.toList) = none) :
    startMarker? (front ++ other.toList) = none := by
  induction h generalizing front with
  | nil => exact hnone
  | @cons piece piece' document other hpiece hrest ih =>
    rw [toList_cons] at hnone ⊢
    cases hpiece with
    | same =>
      rw [← List.append_assoc] at hnone ⊢
      exact ih (fun d hd => hmarked d (List.mem_cons_of_mem _ hd)) (by simp [hfront]) hnone
    | @body d body hquery hbody =>
      obtain ⟨inner, hstart⟩ := (hmarked d (List.mem_cons_self ..)).startMarker_eq
      have hold := toList_exchange_append d d.body (toList document)
      rw [hold] at hnone
      rw [toList_exchange_append]
      exact startMarker?_eq_none_exchange hfront hstart hnone _

/-- Where no comment ends there is no body to exchange. -/
theorem eq_of_exchanged {document other : Document}
    (hmarked : ∀ d, Piece.directive d ∈ document → WellMarked d)
    (h : List.Forall₂ (Exchanged allowed) document other)
    (hnone : ¬ commentEnd <:+: document.toList) : other = document := by
  induction h with
  | nil => rfl
  | @cons piece piece' document other hpiece hrest ih =>
    rw [toList_cons] at hnone
    cases hpiece with
    | same =>
      have hrest := ih (fun d hd => hmarked d (List.mem_cons_of_mem _ hd))
        (fun hin => hnone (hin.trans (List.suffix_append _ _).isInfix))
      rw [hrest]
    | @body d body hquery hbody =>
      obtain ⟨inner, hstart⟩ := (hmarked d (List.mem_cons_self ..)).startMarker_eq
      refine absurd ⟨commentStart ++ inner, d.body ++ (d.endMarker ++ toList document), ?_⟩ hnone
      simp [Piece.toList, Directive.toList, hstart]

/-! ## The same pieces -/

namespace IsCutBefore

variable {d : Directive} {rest : List Char}

/-- The start marker of a directive does not depend on what follows it. -/
private theorem startMarker?_append (h : IsCutBefore d rest) (other : List Char) :
    startMarker? (d.startMarker ++ other) = some ⟨d.name, d.args, other⟩ := by
  rcases startMarker?_exchange h.startMarker?_eq with hex | hnot
  · exact hex other
  · -- a comment ends behind it, that of the end marker
    obtain ⟨inner, hmarker⟩ := h.wellMarked.endMarker_eq
    refine absurd ⟨d.body ++ (commentStart ++ inner), rest, ?_⟩ hnot
    simp [hmarker]

/-- A directive is found again in front of another text. -/
theorem exchange_rest (h : IsCutBefore d rest) (other : List Char) : IsCutBefore d other where
  startMarker?_eq := h.startMarker?_append _
  endMarker?_eq := endMarker?_exchange h.endMarker?_eq other
  not_closes := by
    intro behind hb hne
    obtain ⟨inner, hmarker⟩ := h.wellMarked.endMarker_eq
    -- the end marker stays where it was, so up to its `>` nothing has changed
    have hgt : '>' ∈ behind ++ d.endMarker := by simp [hmarker, commentEnd]
    rw [← List.append_assoc, closes_append_iff hgt d.name other rest, List.append_assoc]
    exact h.not_closes behind hb hne

/-- A directive is found again with another body in which it does not end. -/
theorem exchange_body (h : IsCutBefore d rest) {body : List Char} (hbody : ¬ HoldsEnd d.name body) :
    IsCutBefore { d with body } rest where
  startMarker?_eq := h.startMarker?_append _
  endMarker?_eq := h.endMarker?_eq
  not_closes := by
    intro behind hb hne
    obtain ⟨inner, hmarker⟩ := h.wellMarked.endMarker_eq
    dsimp only at hb ⊢
    rw [hmarker, List.append_assoc]
    exact not_closes_of_not_holdsEnd hbody hb hne _

end IsCutBefore

theorem HoldsStart.consText {name : List Char} {document : Document} (h : HoldsStart name document)
    (front : List Char) : HoldsStart name (consText front document) := by
  obtain ⟨cs, marker, args, hmem, hmarker, hin⟩ := h
  cases document with
  | nil => simp at hmem
  | cons piece document =>
    cases piece with
    | text others =>
      rcases List.mem_cons.1 hmem with heq | hmem
      · obtain rfl := Piece.text.inj heq
        exact ⟨front ++ cs, marker, args, List.mem_cons_self .., hmarker,
          hin.trans (List.suffix_append _ _).isInfix⟩
      · exact ⟨cs, marker, args, List.mem_cons_of_mem _ hmem, hmarker, hin⟩
    | directive d => exact ⟨cs, marker, args, List.mem_cons_of_mem _ hmem, hmarker, hin⟩

theorem HoldsStart.cons {name : List Char} {document : Document} {piece : Piece}
    (h : HoldsStart name document) : HoldsStart name (piece :: document) := by
  obtain ⟨cs, marker, args, hmem, hmarker⟩ := h
  exact ⟨cs, marker, args, List.mem_cons_of_mem piece hmem, hmarker⟩

theorem holdsStart_consText {marker name args : List Char}
    (hmarker : IsStartMarker marker name args)
    (document : Document) : HoldsStart name (Document.consText marker document) := by
  unfold Document.consText
  split
  · exact ⟨_, marker, args, List.mem_cons_self .., hmarker, (List.prefix_append _ _).isInfix⟩
  · exact ⟨_, marker, args, List.mem_cons_self .., hmarker, List.infix_rfl⟩

/-- A text whose query bodies have been exchanged is cut into the same pieces, up to these bodies,
if no new body holds an end marker of a query or of a start marker that stands outside of the
directives. -/
theorem ofList_toList_of_exchanged {cs : List Char} {other : Document}
    (h : List.Forall₂ (Exchanged allowed) (ofList cs) other)
    (hquery : ∀ body, allowed body → ¬ HoldsEnd queryName body)
    (hopen : ∀ name, HoldsStart name (ofList cs) → ∀ body, allowed body → ¬ HoldsEnd name body) :
    ofList other.toList = other := by
  have hmarked : ∀ rest d, Piece.directive d ∈ ofList rest → WellMarked d :=
    fun rest d hd => wellMarked_of_mem_ofList hd
  induction cs using cut_induction generalizing other with
  | nil =>
    rw [ofList] at h
    cases h
    rw [toList, List.flatMap_nil, ofList]
  | skip c cs hs ih =>
    rw [ofList_cons_of_none hs] at h hopen
    obtain ⟨rest, rfl, hrest⟩ := exists_consText_of_exchanged h
    have hnone : startMarker? (c :: rest.toList) = none := by
      refine startMarker?_eq_none_of_exchanged (hmarked cs) hrest (List.cons_ne_nil c []) ?_
      rw [toList_ofList]
      exact hs
    have hcut := ih hrest (fun name hname => hopen name (hname.consText [c]))
    rw [toList_consText, List.singleton_append, ofList_cons_of_none hnone, hcut]
  | unclosed marker rest name args hs hc ih =>
    rw [ofList_of_unclosed hs hc] at h hopen
    obtain ⟨others, rfl, hothers⟩ := exists_consText_of_exchanged h
    have hstart : startMarker? (marker ++ others.toList) = some ⟨name, args, others.toList⟩ := by
      -- if no comment ends behind the marker, no directive stands there
      rcases startMarker?_exchange hs with hex | hnot
      · exact hex _
      · rw [← toList_ofList rest] at hnot
        rw [eq_of_exchanged (hmarked rest) hothers hnot, toList_ofList]
        exact hs
    have hnone : closing? name ([] ++ (ofList rest).toList) = none := by
      rw [List.nil_append, toList_ofList]
      exact hc
    have hname := hopen name (holdsStart_consText (isStartMarker_of_startMarker?_append hs) _)
    have hclose : closing? name others.toList = none :=
      closing?_eq_none_of_exchanged (hmarked rest) hothers hname hnone
    have hcut := ih hothers (fun name' hname' => hopen name' (hname'.consText marker))
    rw [toList_consText, ofList_of_unclosed hstart hclose, hcut]
  | directive d rest hd ih =>
    rw [hd.ofList_eq] at h hopen
    cases h with
    | @cons _ piece _ others hpiece hothers =>
      have hcut := ih hothers (fun name hname => hopen name hname.cons)
      have hfound : ∃ d', piece = .directive d' ∧ IsCutBefore d' (toList others) := by
        cases hpiece with
        | same => exact ⟨d, rfl, hd.exchange_rest _⟩
        | body hisQuery hbody =>
          refine ⟨_, rfl, (hd.exchange_rest _).exchange_body ?_⟩
          rw [eq_of_beq hisQuery]
          exact hquery _ hbody
      obtain ⟨d', rfl, hd'⟩ := hfound
      rw [toList_cons]
      show ofList (d'.toList ++ toList others) = _
      rw [hd'.ofList_eq, hcut]

end

/-- A text whose query bodies have been exchanged for others that open no comment is cut into the
same pieces, up to these bodies. -/
theorem ofList_toList_of_sameButBodies {cs : List Char} {other : Document}
    (h : SameButBodies (ofList cs) other) : ofList other.toList = other :=
  ofList_toList_of_exchanged h (fun _ hbody => not_holdsEnd_of_opensNone hbody _)
    (fun _ _ _ hbody => not_holdsEnd_of_opensNone hbody _)

end Document

end NoteQuery
