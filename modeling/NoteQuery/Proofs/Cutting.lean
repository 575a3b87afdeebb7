import NoteQuery.Proofs.Markers

/-!
# Cutting step by step

A document is cut from its front: a character at which no start marker begins is text, so is a start
marker that is not closed, and a start marker that is closed begins a directive. This file says what
the first end marker with a name is (`closing?_eq_none_iff`, `closing?_append`), what the cut knows
about a directive (`IsCutBefore`), and gives the induction that follows the cut (`cut_induction`).
-/

namespace NoteQuery

open Text

/-- A text that begins inside of a text, or with its last part. -/
theorem Text.suffix_append_cases {front rest behind : List Char} (h : behind <:+ front ++ rest) :
    behind <:+ rest ∨ ∃ part, part ≠ [] ∧ part <:+ front ∧ behind = part ++ rest := by
  obtain ⟨lead, heq⟩ := h
  rcases List.append_eq_append_iff.1 heq with ⟨part, hfront, hbehind⟩ | ⟨part, -, hrest⟩
  · cases part with
    | nil => exact .inl ⟨[], by simpa using hbehind⟩
    | cons c part => exact .inr ⟨c :: part, by simp, ⟨lead, hfront.symm⟩, hbehind⟩
  · exact .inl ⟨part, hrest.symm⟩

namespace Document

/-! ## The first end marker with a name -/

/-- An end marker with a name stands at the front of a text. -/
def Closes (name cs : List Char) : Prop := ∃ rest, endMarker? cs = some ⟨name, rest⟩

/-- The end marker at the front of a text, if it has a name. -/
private theorem filter_name_of_eq_some {name cs rest : List Char}
    (h : endMarker? cs = some ⟨name, rest⟩) :
    (endMarker? cs).filter (fun m => m.name == name) = some ⟨name, rest⟩ := by
  simp [h]

private theorem eq_some_of_filter_name {name cs : List Char} {m : EndMarker}
    (h : (endMarker? cs).filter (fun m => m.name == name) = some m) :
    endMarker? cs = some ⟨name, m.rest⟩ := by
  obtain ⟨hm, hname⟩ := Option.filter_eq_some_iff.1 h
  obtain rfl := eq_of_beq hname
  exact hm

private theorem filter_name_eq_none_iff {name cs : List Char} :
    (endMarker? cs).filter (fun m => m.name == name) = none ↔ ¬ Closes name cs := by
  constructor
  · rintro h ⟨rest, hrest⟩
    simp [filter_name_of_eq_some hrest] at h
  · intro h
    rw [Option.eq_none_iff_forall_ne_some]
    exact fun m hm => h ⟨m.rest, eq_some_of_filter_name hm⟩

theorem closing?_eq_none_iff {name cs : List Char} :
    closing? name cs = none ↔ ∀ behind, behind <:+ cs → ¬ Closes name behind := by
  induction cs with
  | nil =>
    refine ⟨fun _ behind hb => ?_, fun _ => rfl⟩
    rw [List.suffix_nil.1 hb]
    rintro ⟨rest, h⟩
    simp [endMarker?, afterSign?, after?, commentStart] at h
  | cons c cs ih =>
    rw [closing?]
    split
    · rename_i m hm
      refine ⟨fun h => by simp at h, fun h => ?_⟩
      exact absurd ⟨m.rest, eq_some_of_filter_name hm⟩ (h (c :: cs) List.suffix_rfl)
    · rename_i hnone
      rw [Option.map_eq_none_iff, ih]
      constructor
      · intro h behind hb
        rcases List.suffix_cons_iff.1 hb with rfl | hb
        · exact filter_name_eq_none_iff.1 hnone
        · exact h behind hb
      · exact fun h behind hb => h behind (hb.trans (List.suffix_cons c cs))

/-- A closing with more text in front of its end marker. -/
def Closing.behind (front : List Char) (closing : Closing) : Closing :=
  { closing with body := front ++ closing.body }

theorem closing?_cons_of_not_closes {name : List Char} {c : Char} {cs : List Char}
    (h : ¬ Closes name (c :: cs)) :
    closing? name (c :: cs) = (closing? name cs).map (Closing.behind [c]) := by
  rw [closing?, filter_name_eq_none_iff.2 h]
  rfl

/-- The first end marker with a name is looked for behind a text in which none begins. -/
theorem closing?_append_of_not_closes {name front rest : List Char}
    (h : ∀ part, part <:+ front → part ≠ [] → ¬ Closes name (part ++ rest)) :
    closing? name (front ++ rest) = (closing? name rest).map (Closing.behind front) := by
  induction front with
  | nil =>
    show closing? name rest = _
    cases closing? name rest <;> rfl
  | cons c front ih =>
    have htail := ih (fun part hpart => h part (hpart.trans (List.suffix_cons c front)))
    have hfirst : ¬ Closes name (c :: (front ++ rest)) := h (c :: front) List.suffix_rfl (by simp)
    rw [List.cons_append, closing?_cons_of_not_closes hfirst, htail]
    cases closing? name rest <;> rfl

theorem closing?_of_endMarker? {name marker rest : List Char}
    (h : endMarker? (marker ++ rest) = some ⟨name, rest⟩) :
    closing? name (marker ++ rest) = some ⟨[], marker, rest⟩ := by
  obtain ⟨inner, heq⟩ := eq_append_of_endMarker? h
  have hfront : frontOf (marker ++ rest) rest = marker := by simp [frontOf]
  cases hcs : marker ++ rest with
  | nil => simp [hcs, commentStart] at heq
  | cons c cs =>
    rw [closing?, ← hcs, filter_name_of_eq_some h]
    dsimp only
    rw [hfront]

/-- A body ends at an end marker if none begins inside of it. -/
theorem closing?_append {name body marker rest : List Char}
    (hmarker : endMarker? (marker ++ rest) = some ⟨name, rest⟩)
    (hbody : ∀ behind, behind <:+ body → behind ≠ [] → ¬ Closes name (behind ++ (marker ++ rest))) :
    closing? name (body ++ (marker ++ rest)) = some ⟨body, marker, rest⟩ := by
  rw [closing?_append_of_not_closes hbody, closing?_of_endMarker? hmarker, Option.map_some,
    Closing.behind, List.append_nil]

/-- What has been found by looking for the first end marker with a name. -/
theorem of_closing?_eq_some {name cs : List Char} {closing : Closing}
    (h : closing? name cs = some closing) :
    endMarker? (closing.marker ++ closing.rest) = some ⟨name, closing.rest⟩ ∧
      ∀ behind, behind <:+ closing.body → behind ≠ [] →
        ¬ Closes name (behind ++ (closing.marker ++ closing.rest)) := by
  induction cs generalizing closing with
  | nil => simp [closing?] at h
  | cons c cs ih =>
    rw [closing?] at h
    split at h
    · rename_i m hm
      obtain rfl := Option.some.inj h
      have hm := eq_some_of_filter_name hm
      refine ⟨?_, fun behind hb hne => absurd (List.suffix_nil.1 hb) hne⟩
      dsimp only
      rw [eq_frontOf_append (suffix_of_endMarker? hm).1]
      exact hm
    · rename_i hnone
      obtain ⟨inner, hinner, rfl⟩ := Option.map_eq_some_iff.1 h
      obtain ⟨hmarker, hbody⟩ := ih hinner
      refine ⟨hmarker, fun behind hb hne => ?_⟩
      rcases List.suffix_cons_iff.1 hb with rfl | hb
      · rw [List.cons_append, (suffix_of_closing? hinner).1]
        exact filter_name_eq_none_iff.1 hnone
      · exact hbody behind hb hne

/-! ## Cutting step by step -/

theorem ofList_cons_of_none {c : Char} {cs : List Char} (h : startMarker? (c :: cs) = none) :
    ofList (c :: cs) = consText [c] (ofList cs) := by
  rw [ofList]
  split
  · rfl
  · rename_i start hs
    simp [h] at hs

theorem ofList_of_unclosed {front rest name args : List Char}
    (hstart : startMarker? (front ++ rest) = some ⟨name, args, rest⟩)
    (hclose : closing? name rest = none) :
    ofList (front ++ rest) = consText front (ofList rest) := by
  have hfront : frontOf (front ++ rest) rest = front := by simp [frontOf]
  cases hcs : front ++ rest with
  | nil => simp [hcs, startMarker?, afterSign?, after?, commentStart] at hstart
  | cons c cs =>
    rw [hcs] at hstart hfront
    rw [ofList]
    split
    · rename_i hnone
      simp [hnone] at hstart
    · rename_i start hs
      obtain rfl := Option.some.inj (hs.symm.trans hstart)
      split
      · rw [hfront]
      · rename_i closing hc
        simp [hclose] at hc

/-- A directive is cut out of a text in front of its rest: its markers are read where they stand,
and no end marker of its name begins inside of its body. -/
structure IsCutBefore (d : Directive) (rest : List Char) : Prop where
  startMarker?_eq : startMarker? (d.startMarker ++ (d.body ++ (d.endMarker ++ rest))) =
    some ⟨d.name, d.args, d.body ++ (d.endMarker ++ rest)⟩
  endMarker?_eq : endMarker? (d.endMarker ++ rest) = some ⟨d.name, rest⟩
  not_closes : ∀ behind, behind <:+ d.body → behind ≠ [] →
    ¬ Closes d.name (behind ++ (d.endMarker ++ rest))

namespace IsCutBefore

variable {d : Directive} {rest : List Char}

theorem isStartMarker (h : IsCutBefore d rest) : IsStartMarker d.startMarker d.name d.args :=
  isStartMarker_of_startMarker?_append h.startMarker?_eq

theorem isEndMarker (h : IsCutBefore d rest) : IsEndMarker d.endMarker d.name :=
  isEndMarker_of_endMarker?_append h.endMarker?_eq

theorem closing?_eq (h : IsCutBefore d rest) :
    closing? d.name (d.body ++ (d.endMarker ++ rest)) = some ⟨d.body, d.endMarker, rest⟩ :=
  closing?_append h.endMarker?_eq h.not_closes

theorem ofList_eq (h : IsCutBefore d rest) :
    ofList (d.toList ++ rest) = .directive d :: ofList rest := by
  have hfront : frontOf (d.startMarker ++ (d.body ++ (d.endMarker ++ rest)))
      (d.body ++ (d.endMarker ++ rest)) = d.startMarker := by simp [frontOf]
  have hstart := h.startMarker?_eq
  rw [Directive.toList, List.append_assoc, List.append_assoc]
  cases hcs : d.startMarker ++ (d.body ++ (d.endMarker ++ rest)) with
  | nil => simp [hcs, startMarker?, afterSign?, after?, commentStart] at hstart
  | cons c cs =>
    rw [hcs] at hstart hfront
    rw [ofList]
    split
    · rename_i hnone
      simp [hnone] at hstart
    · rename_i start hs
      obtain rfl := Option.some.inj (hs.symm.trans hstart)
      split
      · rename_i hnone
        simp [h.closing?_eq] at hnone
      · rename_i closing hc
        obtain rfl := Option.some.inj (hc.symm.trans h.closing?_eq)
        rw [hfront]

end IsCutBefore

/-- A start marker that is closed begins a directive. -/
theorem exists_isCutBefore {cs : List Char} {start : StartMarker} {closing : Closing}
    (hs : startMarker? cs = some start) (hc : closing? start.name start.rest = some closing) :
    ∃ d, IsCutBefore d closing.rest ∧ cs = d.toList ++ closing.rest := by
  have hcut := eq_frontOf_append (suffix_of_startMarker? hs).1
  have hbehind := (suffix_of_closing? hc).1
  obtain ⟨hend, hbody⟩ := of_closing?_eq_some hc
  refine ⟨⟨start.name, start.args, frontOf cs start.rest, closing.body, closing.marker⟩,
    ⟨?_, hend, hbody⟩, ?_⟩
  · dsimp only
    rw [hbehind, hcut]
    exact hs
  · rw [Directive.toList, List.append_assoc, List.append_assoc, hbehind, hcut]

/-- Induction along the cut. -/
@[elab_as_elim]
theorem cut_induction {motive : List Char → Prop} (nil : motive [])
    (skip : ∀ c cs, startMarker? (c :: cs) = none → motive cs → motive (c :: cs))
    (unclosed : ∀ marker rest name args, startMarker? (marker ++ rest) = some ⟨name, args, rest⟩ →
      closing? name rest = none → motive rest → motive (marker ++ rest))
    (directive : ∀ d rest, IsCutBefore d rest → motive rest → motive (d.toList ++ rest))
    (cs : List Char) : motive cs := by
  fun_induction ofList cs with
  | case1 => exact nil
  | case2 c others hs ih => exact skip c others hs ih
  | case3 c others start hs hlt hc ih =>
    have hcut := eq_frontOf_append (suffix_of_startMarker? hs).1
    generalize frontOf (c :: others) start.rest = marker at hcut
    rw [← hcut] at hs ⊢
    exact unclosed marker start.rest start.name start.args hs hc ih
  | case4 c others start hs hlt closing hc hrest ih =>
    obtain ⟨d, hd, heq⟩ := exists_isCutBefore hs hc
    rw [heq]
    exact directive d closing.rest hd ih

/-! ## Pieces of a document -/

@[simp] theorem toList_cons (piece : Piece) (document : Document) :
    toList (piece :: document) = piece.toList ++ toList document := rfl

theorem mem_directives_iff {document : Document} {d : Directive} :
    d ∈ document.directives ↔ Piece.directive d ∈ document := by
  unfold directives
  rw [List.mem_filterMap]
  constructor
  · rintro ⟨piece, hmem, hpiece⟩
    cases piece with
    | text cs => simp at hpiece
    | directive d' =>
      obtain rfl := Option.some.inj hpiece
      exact hmem
  · exact fun hmem => ⟨.directive d, hmem, rfl⟩

theorem mem_consText_iff {cs : List Char} {document : Document} {d : Directive} :
    Piece.directive d ∈ consText cs document ↔ Piece.directive d ∈ document := by
  unfold consText
  split <;> simp

theorem exists_isCutBefore_of_mem {cs : List Char} {d : Directive}
    (h : Piece.directive d ∈ ofList cs) : ∃ rest, IsCutBefore d rest := by
  induction cs using cut_induction with
  | nil => simp [ofList] at h
  | skip c cs hs ih =>
    rw [ofList_cons_of_none hs] at h
    exact ih (mem_consText_iff.1 h)
  | unclosed marker rest name args hs hc ih =>
    rw [ofList_of_unclosed hs hc] at h
    exact ih (mem_consText_iff.1 h)
  | directive d' rest hd ih =>
    rw [hd.ofList_eq] at h
    rcases List.mem_cons.1 h with h | h
    · obtain rfl := Piece.directive.inj h
      exact ⟨rest, hd⟩
    · exact ih h

end Document

end NoteQuery
