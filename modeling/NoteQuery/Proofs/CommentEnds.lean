import NoteQuery.Proofs.StartScan

/-!
# How many comments a start marker takes

The arguments of a start marker reach up to the first `-->` behind their first character. So a start
marker is one comment as long as its arguments do not begin with `-->`
(`startMarker_oneComment_iff`).

They begin with `-->` where the first comment has none, only white space behind the name. Then the
marker goes on behind that comment, up to the end of the next one. In this way an empty query takes
the marker of the next directive into its arguments (`not_oneComment_emptyQuery`).
-/

namespace NoteQuery

open Text Unicode

namespace Text

/-- In front of the first occurrence of a part there is no other one. -/
theorem not_infix_of_splitAround? {part cs before behind : List Char} (hpart : part ≠ [])
    (h : splitAround? part cs = some (before, behind)) : ¬ part <:+: before := by
  rintro ⟨front, more, hbefore⟩
  have hcs : cs = front ++ (part ++ (more ++ (part ++ behind))) := by
    rw [eq_append_of_splitAround? h, ← hbefore]
    simp
  have hle := length_le_of_splitAround? h hcs
  have hpos := List.length_pos_of_ne_nil hpart
  rw [← hbefore, List.length_append, List.length_append] at hle
  omega

end Text

namespace Document

/-! ## Arguments -/

/-- No comment ends in the arguments behind their first character. -/
theorem not_infix_tail_of_arguments? {blanks cs args rest : List Char}
    (h : arguments? blanks cs = some (args, rest)) : ¬ commentEnd <:+: args.tail := by
  cases cs with
  | nil => simp [arguments?] at h
  | cons c others =>
    rw [arguments?] at h
    cases hsplit : splitAround? commentEnd others with
    | some found =>
      obtain ⟨before, behind⟩ := found
      rw [hsplit] at h
      obtain ⟨rfl, -⟩ := Prod.mk.inj (Option.some.inj h)
      exact not_infix_of_splitAround? (by decide) hsplit
    | none =>
      -- the arguments are a single blank
      rw [hsplit] at h
      dsimp only at h
      split at h
      · obtain ⟨behind, -, heq⟩ := Option.map_eq_some_iff.1 h
        obtain ⟨rfl, -⟩ := Prod.mk.inj heq
        intro hin
        have hlength := hin.length_le
        rw [List.length_tail, List.length_drop] at hlength
        simp only [commentEnd, List.length_cons, List.length_nil] at hlength
        omega
      · simp at h

theorem not_infix_tail_of_startMarker? {cs : List Char} {m : StartMarker}
    (h : startMarker? cs = some m) : ¬ commentEnd <:+: m.args.tail := by
  obtain ⟨head, blanks, inner, -, -, -, hargs⟩ := exists_isHead_of_startMarker? h
  exact not_infix_tail_of_arguments? hargs

/-! ## Ends of comments -/

/-- A comment ends in a text at the end of the text only. -/
def OneComment (cs : List Char) : Prop :=
  ∀ before after, cs = before ++ (commentEnd ++ after) → after = []

namespace IsHead

variable {head name blanks : List Char}

theorem gt_not_mem (h : IsHead head name blanks) : '>' ∉ head := by
  obtain ⟨gap, hgap, rfl⟩ := h.eq_append
  intro hmem
  rcases List.mem_append.1 hmem with hmem | hmem
  · exact absurd hmem (by decide)
  · rcases List.mem_append.1 hmem with hmem | hmem
    · exact absurd (hgap _ hmem) (by simp [isBlank_gt])
    · rcases List.mem_cons.1 hmem with hmem | hmem
      · exact absurd hmem (by decide)
      · rcases List.mem_append.1 hmem with hmem | hmem
        · exact absurd (h.isNameChar_of_mem _ hmem) (by simp [isNameChar_gt])
        · exact absurd (h.isBlank_of_mem _ hmem) (by simp [isBlank_gt])

/-- A head ends with a blank. -/
theorem exists_eq_append_singleton (h : IsHead head name blanks) :
    ∃ front b, head = front ++ [b] ∧ isBlank b = true := by
  obtain ⟨gap, -, rfl⟩ := h.eq_append
  obtain ⟨init, b, rfl⟩ := List.eq_nil_or_concat blanks |>.resolve_left h.blanks_ne_nil
  exact ⟨commentStart ++ (gap ++ '#' :: (name ++ init)), b, by simp,
    h.isBlank_of_mem b (by simp)⟩

/-- A comment that ends behind the front of a head ends behind the head, with all of its end. -/
theorem exists_of_append_eq_append_commentEnd (h : IsHead head name blanks)
    {inner before after : List Char} (heq : head ++ inner = before ++ (commentEnd ++ after)) :
    ∃ between, before = head ++ between ∧ inner = between ++ (commentEnd ++ after) := by
  rcases List.append_eq_append_iff.1 heq with ⟨between, hbefore, hinner⟩ | ⟨part, hhead, hafter⟩
  · exact ⟨between, hbefore, hinner⟩
  · obtain rfl | ⟨init, c, rfl⟩ := List.eq_nil_or_concat part
    · exact ⟨[], by simpa using hhead.symm, by simpa using hafter.symm⟩
    · exfalso
      -- the head ends with a blank, so not with a hyphen, and it has no `>`
      obtain ⟨front, b, hlast, hb⟩ := h.exists_eq_append_singleton
      rw [List.concat_eq_append] at hhead hafter
      have hhead' : (before ++ init) ++ [c] = front ++ [b] := by
        rw [List.append_assoc, ← hhead, hlast]
      obtain rfl : c = b := List.head_eq_of_cons_eq (List.append_inj' hhead' rfl).2
      have hgt : '>' ∉ init ++ [c] := fun hmem => h.gt_not_mem (by
        rw [hhead]
        exact List.mem_append_right before hmem)
      rcases List.append_eq_append_iff.1 hafter with ⟨more, hmore, -⟩ | ⟨more, hmore, -⟩
      · exact hgt (by rw [hmore]; simp [commentEnd])
      · have hc : c ∈ commentEnd := by rw [hmore]; simp
        obtain rfl | rfl : c = '-' ∨ c = '>' := by simpa [commentEnd] using hc
        · rw [isBlank_hyphen] at hb
          exact absurd hb (by decide)
        · exact hgt (List.mem_append_right init (List.mem_singleton_self '>'))

end IsHead

/-- A comment that ends in front of the end of a text ends in front of the text's last comment
end. -/
theorem exists_of_append_commentEnd {args before after : List Char} (hafter : after ≠ [])
    (heq : args ++ commentEnd = before ++ (commentEnd ++ after)) :
    ∃ more, args = before ++ (commentEnd ++ more) := by
  rw [← List.append_assoc] at heq
  rcases List.append_eq_append_iff.1 heq with ⟨part, hpart, hend⟩ | ⟨more, hmore, -⟩
  · cases part with
    | nil => exact ⟨[], by simpa using hpart.symm⟩
    | cons c part =>
      exfalso
      -- there is one `>` in the end of a comment, not one in each of its parts
      have hgt : '>' ∈ c :: part := gt_mem_of_suffix ⟨args, hpart.symm⟩ (List.cons_ne_nil c part)
      have hsuffix : after <:+ [] ++ commentEnd := ⟨c :: part, hend.symm⟩
      have hgt' : '>' ∈ after := gt_mem_of_suffix hsuffix hafter
      have hcount := congrArg (List.count '>') hend
      rw [List.count_append] at hcount
      have hone : commentEnd.count '>' = 1 := by decide
      have hpos := List.count_pos_iff.2 hgt
      have hpos' := List.count_pos_iff.2 hgt'
      omega
  · exact ⟨more, by rw [hmore, List.append_assoc]⟩

theorem IsStartMarker.oneComment_iff {marker name args : List Char}
    (h : IsStartMarker marker name args) (htail : ¬ commentEnd <:+: args.tail) :
    OneComment marker ↔ ¬ commentEnd <+: args := by
  obtain ⟨head, blanks, hhead, rfl⟩ := h.eq_append
  constructor
  · rintro hone ⟨more, hmore⟩
    have hafter : more ++ commentEnd = [] := hone head (more ++ commentEnd) (by rw [← hmore]; simp)
    simp [commentEnd] at hafter
  · intro hargs before after heq
    by_contra hafter
    obtain ⟨between, rfl, hinner⟩ := hhead.exists_of_append_eq_append_commentEnd heq
    obtain ⟨more, rfl⟩ := exists_of_append_commentEnd hafter hinner
    cases between with
    | nil => exact hargs ⟨more, rfl⟩
    | cons c between => exact htail ⟨between, more, by simp⟩

/-- The arguments of a directive hold no end of a comment behind their first character. So its start
marker is one comment, and its arguments hold no end of a comment at all, exactly if the arguments
do not begin with one. -/
theorem startMarker_oneComment_iff {text : String} {d : Directive}
    (h : d ∈ (ofText text).directives) :
    ¬ commentEnd <:+: d.args.tail ∧
      (OneComment d.startMarker ∧ ¬ commentEnd <:+: d.args ↔ ¬ commentEnd <+: d.args) := by
  obtain ⟨rest, hcut⟩ := exists_isCutBefore_of_mem (mem_directives_iff.1 h)
  have htail := not_infix_tail_of_startMarker? hcut.startMarker?_eq
  have hmarker := hcut.isStartMarker
  refine ⟨htail, ?_⟩
  rw [hmarker.oneComment_iff htail]
  constructor
  · exact fun hargs => hargs.1
  · intro hargs
    refine ⟨hargs, fun hin => ?_⟩
    obtain ⟨c, others, heq⟩ := List.exists_cons_of_ne_nil hmarker.args_ne_nil
    rw [heq] at hin hargs htail
    rcases List.infix_cons_iff.1 hin with hpre | hinside
    · exact hargs hpre
    · exact htail hinside

/-- Hyphens in the arguments do no harm. -/
theorem startMarker_oneComment_iff_hyphens :
    let text := "<!-- #use a--b --->x<!-- /use -->"
    let d : Directive := ⟨"use".toList, "a--b -".toList, "<!-- #use a--b --->".toList, ['x'],
      "<!-- /use -->".toList⟩
    d ∈ (ofText text).directives ∧ ¬ commentEnd <+: d.args ∧ OneComment d.startMarker := by
  intro text d
  have hmem : d ∈ (ofText text).directives := by decide +kernel
  have hargs : ¬ commentEnd <+: d.args := by decide +kernel
  exact ⟨hmem, hargs, ((startMarker_oneComment_iff hmem).2.2 hargs).1⟩

/-- A query without arguments takes the end of the directive, and the start marker of the next one,
for its own. -/
theorem not_oneComment_emptyQuery :
    let text := "<!-- #query --><!-- /query --><!-- #query page -->x<!-- /query -->"
    (ofText text).directives =
        [⟨"query".toList, "--><!-- /query ".toList, "<!-- #query --><!-- /query -->".toList,
          "<!-- #query page -->x".toList, "<!-- /query -->".toList⟩] ∧
      ¬ ∀ d ∈ (ofText text).directives, ¬ commentEnd <:+: d.args := by
  decide +kernel

end Document

end NoteQuery
