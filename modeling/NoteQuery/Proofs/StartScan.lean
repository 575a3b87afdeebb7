import NoteQuery.Proofs.Cutting
import NoteQuery.Proofs.Slices

/-!
# The scan for start markers

Reading a text from left to right, one comes to a start marker, goes on behind it, comes to the next
one, and so on (`scanStarts`). What the scan comes to are start markers one behind the other, and it
misses none: every start marker of the text begins within one that the scan comes to (`IsScan`).

A document is cut with another rhythm: where a directive has been found, the search goes on behind
the directive. The scan falls into step again there (`scanStarts_append_endMarker`). A start marker
that begins in front of an end marker, and that the end marker does not follow, ends together with
it: its arguments reach up to the first `-->`.
-/

namespace NoteQuery

open Text Unicode

namespace Text

/-- The first occurrence of a part stands in front of every other one. -/
theorem length_le_of_splitAround? {part cs before behind : List Char}
    (h : splitAround? part cs = some (before, behind)) {front rest : List Char}
    (hcs : cs = front ++ (part ++ rest)) : before.length ≤ front.length := by
  induction front generalizing cs before behind with
  | nil =>
    have hself := after?_append_self part rest
    rw [List.nil_append] at hcs
    rw [← hcs] at hself
    cases cs with
    | nil =>
      simp only [splitAround?] at h
      split at h
      · obtain ⟨rfl, -⟩ := Prod.mk.inj (Option.some.inj h)
        exact Nat.le_refl _
      · simp at h
    | cons c cs =>
      rw [splitAround?, hself] at h
      obtain ⟨rfl, -⟩ := Prod.mk.inj (Option.some.inj h)
      exact Nat.le_refl _
  | cons c front ih =>
    subst hcs
    rw [List.cons_append, splitAround?] at h
    split at h
    · obtain ⟨rfl, -⟩ := Prod.mk.inj (Option.some.inj h)
      exact Nat.zero_le _
    · obtain ⟨⟨before', behind'⟩, hsplit, heq⟩ := Option.map_eq_some_iff.1 h
      obtain ⟨rfl, -⟩ := Prod.mk.inj heq
      have hle := ih hsplit rfl
      simp only [List.length_cons]
      omega

end Text

namespace Document

/-! ## The scan -/

/-- A start marker that the scan comes to. -/
structure ScannedStart where
  marker : StartMarker
  range : ByteRange
deriving DecidableEq

/-- The start markers of a text that stands at a byte offset: the first one, the first one behind
it, and so on. -/
def scanStarts (offset : Nat) (cs : List Char) : List ScannedStart :=
  match cs with
  | [] => []
  | c :: others =>
    match hs : startMarker? (c :: others) with
    | none => scanStarts (offset + c.utf8Size) others
    | some m =>
      have : m.rest.length < others.length + 1 := (suffix_of_startMarker? hs).2
      let stop := offset + byteSize (frontOf (c :: others) m.rest)
      ⟨m, ⟨offset, stop⟩⟩ :: scanStarts stop m.rest
termination_by cs.length

variable {offset : Nat}

theorem scanStarts_cons_of_none {c : Char} {cs : List Char} (h : startMarker? (c :: cs) = none) :
    scanStarts offset (c :: cs) = scanStarts (offset + c.utf8Size) cs := by
  rw [scanStarts]
  split
  · rfl
  · rename_i m hm
    simp [h] at hm

theorem scanStarts_append_of_some {front rest name args : List Char}
    (h : startMarker? (front ++ rest) = some ⟨name, args, rest⟩) :
    scanStarts offset (front ++ rest) =
      ⟨⟨name, args, rest⟩, ⟨offset, offset + byteSize front⟩⟩ ::
        scanStarts (offset + byteSize front) rest := by
  have hfront : frontOf (front ++ rest) rest = front := by simp [frontOf]
  cases hcs : front ++ rest with
  | nil => simp [hcs, startMarker?, afterSign?, after?, commentStart] at h
  | cons c cs =>
    rw [hcs] at h hfront
    rw [scanStarts]
    split
    · rename_i hnone
      simp [hnone] at h
    · rename_i m hm
      obtain rfl := Option.some.inj (hm.symm.trans h)
      rw [hfront]

/-- The scan passes over a text in which no start marker begins. -/
theorem scanStarts_append_of_none {front rest : List Char}
    (h : ∀ part, part <:+ front → part ≠ [] → startMarker? (part ++ rest) = none) :
    scanStarts offset (front ++ rest) = scanStarts (offset + byteSize front) rest := by
  induction front generalizing offset with
  | nil => rfl
  | cons c front ih =>
    have hcons : startMarker? (c :: (front ++ rest)) = none :=
      h (c :: front) List.suffix_rfl (List.cons_ne_nil c front)
    have htail : ∀ part, part <:+ front → part ≠ [] → startMarker? (part ++ rest) = none :=
      fun part hpart => h part (hpart.trans (List.suffix_cons c front))
    rw [List.cons_append, scanStarts_cons_of_none hcons, ih htail, byteSize_cons, Nat.add_assoc]

/-- Induction along the scan. -/
@[elab_as_elim]
theorem scan_induction {motive : List Char → Prop} (nil : motive [])
    (skip : ∀ c cs, startMarker? (c :: cs) = none → motive cs → motive (c :: cs))
    (marker : ∀ marker rest name args, startMarker? (marker ++ rest) = some ⟨name, args, rest⟩ →
      motive rest → motive (marker ++ rest)) (cs : List Char) : motive cs := by
  fun_induction scanStarts 0 cs with
  | case1 => exact nil
  | case2 offset c cs hs ih => exact skip c cs hs ih
  | case3 offset c cs m hs hlt stop ih =>
    have hcut := eq_frontOf_append (suffix_of_startMarker? hs).1
    generalize frontOf (c :: cs) m.rest = front at hcut
    rw [← hcut] at hs ⊢
    exact marker front m.rest m.name m.args hs ih

/-- What the scan comes to are start markers, and they stand where their ranges say. -/
theorem isSlice_of_mem_scanStarts (front : List Char) {cs : List Char} {s : ScannedStart}
    (h : s ∈ scanStarts (byteSize front) cs) :
    ∃ marker, IsSlice (front ++ cs) s.range marker ∧
      IsStartMarker marker s.marker.name s.marker.args := by
  induction cs using scan_induction generalizing front with
  | nil => simp [scanStarts] at h
  | skip c cs hs ih =>
    have hsize : byteSize front + c.utf8Size = byteSize (front ++ [c]) := by simp
    rw [scanStarts_cons_of_none hs, hsize] at h
    rw [List.append_cons]
    exact ih (front ++ [c]) h
  | marker marker rest name args hs ih =>
    rw [scanStarts_append_of_some hs, ← byteSize_append] at h
    rcases List.mem_cons.1 h with rfl | h
    · have hmarker := isStartMarker_of_startMarker?_append hs
      exact ⟨marker, ⟨front, rest, rfl, rfl, rfl⟩, hmarker⟩
    · rw [← List.append_assoc]
      exact ih (front ++ marker) h

theorem offset_le_of_mem_scanStarts {cs : List Char} {s : ScannedStart}
    (h : s ∈ scanStarts offset cs) : offset ≤ s.range.start := by
  induction cs using scan_induction generalizing offset with
  | nil => simp [scanStarts] at h
  | skip c cs hs ih =>
    rw [scanStarts_cons_of_none hs] at h
    exact (Nat.le_add_right ..).trans (ih h)
  | marker marker rest name args hs ih =>
    rw [scanStarts_append_of_some hs] at h
    rcases List.mem_cons.1 h with rfl | h
    · exact Nat.le_refl _
    · exact (Nat.le_add_right ..).trans (ih h)

/-- The scan goes on behind each start marker that it comes to. -/
theorem pairwise_scanStarts (offset : Nat) (cs : List Char) :
    (scanStarts offset cs).Pairwise (fun s t => s.range.stop ≤ t.range.start) := by
  induction cs using scan_induction generalizing offset with
  | nil => simp [scanStarts]
  | skip c cs hs ih =>
    rw [scanStarts_cons_of_none hs]
    exact ih _
  | marker marker rest name args hs ih =>
    rw [scanStarts_append_of_some hs]
    exact .cons (fun t ht => offset_le_of_mem_scanStarts ht) (ih _)

/-- The scan misses no start marker: each one begins within one that the scan comes to. -/
theorem exists_mem_scanStarts (front : List Char) {cs : List Char} {range : ByteRange}
    {marker name args : List Char} (hslice : IsSlice (front ++ cs) range marker)
    (hmarker : IsStartMarker marker name args) (hle : byteSize front ≤ range.start) :
    ∃ s ∈ scanStarts (byteSize front) cs,
      s.range.start ≤ range.start ∧ range.start < s.range.stop := by
  induction cs using scan_induction generalizing front with
  | nil =>
    obtain ⟨between, after, heq, -⟩ := hslice.exists_of_le hle
    obtain ⟨inner, rfl⟩ := hmarker.eq_comment
    simp [commentStart] at heq
  | skip c cs hs ih =>
    have hsize : byteSize front + c.utf8Size = byteSize (front ++ [c]) := by simp
    rw [scanStarts_cons_of_none hs, hsize]
    refine ih (front ++ [c]) ?_ ?_
    · rwa [List.append_cons] at hslice
    · -- a start marker at the front would have been read
      obtain ⟨between, after, heq, hstart⟩ := hslice.exists_of_le hle
      cases between with
      | nil =>
        obtain ⟨args', rest', hsome⟩ := hmarker.exists_startMarker?_append after
        rw [← List.nil_append (marker ++ after), ← heq, hs] at hsome
        cases hsome
      | cons d between =>
        obtain rfl := (List.cons.inj heq).1
        rw [byteSize_append, byteSize_cons] at hstart
        rw [← hsize]
        omega
  | marker marker' rest name' args' hs ih =>
    rw [scanStarts_append_of_some hs, ← byteSize_append]
    by_cases hlt : range.start < byteSize (front ++ marker')
    · exact ⟨_, List.mem_cons_self .., hle, hlt⟩
    · rw [← List.append_assoc] at hslice
      obtain ⟨s, hs, hrange⟩ := ih (front ++ marker') hslice (Nat.le_of_not_lt hlt)
      exact ⟨s, List.mem_cons_of_mem _ hs, hrange⟩

/-- Start markers that one comes to in a text from left to right: they stand where their ranges say,
one behind the other, and every start marker of the text begins within one of them. -/
structure IsScan (cs : List Char) (starts : List ScannedStart) : Prop where
  isSlice : ∀ s ∈ starts, ∃ marker, IsSlice cs s.range marker ∧
    IsStartMarker marker s.marker.name s.marker.args
  ordered : starts.Pairwise (fun s t => s.range.stop ≤ t.range.start)
  complete : ∀ range marker name args, IsSlice cs range marker → IsStartMarker marker name args →
    ∃ s ∈ starts, s.range.start ≤ range.start ∧ range.start < s.range.stop

theorem isScan_scanStarts (cs : List Char) : IsScan cs (scanStarts 0 cs) where
  isSlice _ hs := isSlice_of_mem_scanStarts [] hs
  ordered := pairwise_scanStarts 0 cs
  complete range _ _ _ hslice hmarker :=
    exists_mem_scanStarts [] hslice hmarker (Nat.zero_le range.start)

/-! ## Falling into step again -/

/-- A sign stands behind the blanks of one marker only. -/
private theorem sign_ne {gap gap' cs ds : List Char} (hgap : ∀ c ∈ gap, isBlank c = true)
    (hgap' : ∀ c ∈ gap', isBlank c = true) : gap ++ '/' :: cs ≠ gap' ++ '#' :: ds := by
  intro heq
  have hdrop := congrArg (List.dropWhile isBlank) heq
  rw [List.dropWhile_append_of_pos hgap, List.dropWhile_append_of_pos hgap',
    List.dropWhile_cons_of_neg (by decide), List.dropWhile_cons_of_neg (by decide)] at hdrop
  exact absurd (List.cons.inj hdrop).1 (by decide)

/-- No start marker begins in an end marker. -/
theorem IsEndMarker.startMarker?_append {marker name part : List Char} (h : IsEndMarker marker name)
    (hpart : part <:+ marker) (hne : part ≠ []) (rest : List Char) :
    startMarker? (part ++ rest) = none := by
  by_contra hsome
  obtain ⟨m, hm⟩ := Option.ne_none_iff_exists'.1 hsome
  obtain ⟨head, blanks, args, hhead, heq, -, -⟩ := exists_isHead_of_startMarker? hm
  obtain ⟨gap', hgap', rfl⟩ := hhead.eq_append
  obtain ⟨c, part, rfl⟩ := List.exists_cons_of_ne_nil hne
  obtain rfl : c = '<' := (List.cons.inj heq).1
  -- its only `<` is at the front
  have hwhole : '<' :: part = marker := by
    obtain ⟨inner, rfl, hlt, -⟩ := h.eq_cons
    rcases List.suffix_cons_iff.1 hpart with hwhole | hpart
    · exact hwhole
    · have hmem := hpart.subset (List.mem_cons_self ..)
      simp [commentEnd, hlt] at hmem
  rw [hwhole] at heq
  obtain ⟨gap, _, hgap, -, rfl⟩ := h.eq_append
  simp only [List.append_assoc, List.cons_append, List.append_cancel_left_eq] at heq
  exact sign_ne hgap hgap' heq

/-- The first end of a comment is that of the next end marker, or it comes in front of it. -/
theorem splitAround?_commentEnd {front inner rest before behind : List Char} (hinner : '>' ∉ inner)
    (h : splitAround? commentEnd (front ++ (inner ++ (commentEnd ++ rest))) =
      some (before, behind)) :
    behind = rest ∨
      ∃ more, front = before ++ (commentEnd ++ more) ∧
        behind = more ++ (inner ++ (commentEnd ++ rest)) := by
  have hsplit := eq_append_of_splitAround? h
  have hlength : before.length ≤ (front ++ inner).length :=
    length_le_of_splitAround? h (by rw [List.append_assoc])
  have hends : (front ++ (inner ++ commentEnd)) ++ rest = (before ++ commentEnd) ++ behind := by
    simpa using hsplit
  rcases List.append_eq_append_iff.1 hends with
    ⟨beyond, hbeyond, hrest⟩ | ⟨beyond, hbeyond, hbehind⟩
  · -- not behind the end marker, because its own end would be found
    left
    have hsize := congrArg List.length hbeyond
    simp only [List.length_append] at hsize hlength
    obtain rfl : beyond = [] := List.length_eq_zero_iff.1 (by omega)
    exact hrest.symm
  · cases beyond with
    | nil => exact .inl hbehind
    | cons c beyond =>
      right
      rcases List.append_eq_append_iff.1 hbeyond with ⟨more, hmore, hinside⟩ | ⟨more, hfront, hmore⟩
      · -- not inside of it, because its only `>` is at its end
        cases more with
        | nil =>
          refine ⟨[], by simpa using hmore.symm, ?_⟩
          rw [hbehind, ← List.nil_append (c :: beyond), ← hinside]
          simp
        | cons d more =>
          exfalso
          have hgt : '>' ∈ d :: more :=
            gt_mem_of_suffix ⟨front, hmore.symm⟩ (List.cons_ne_nil d more)
          obtain ⟨init, last, hlast⟩ :=
            List.eq_nil_or_concat (c :: beyond) |>.resolve_left (by simp)
          rw [hlast] at hinside
          have hends : (inner ++ ['-', '-']) ++ ['>'] = (d :: more ++ init) ++ [last] := by
            simpa [commentEnd] using hinside
          have hfront := (List.append_inj' hends rfl).1
          have hmem : '>' ∈ inner ++ ['-', '-'] := by
            rw [hfront]
            exact List.mem_append_left _ hgt
          simp [hinner] at hmem
      · refine ⟨more, by simpa using hfront, ?_⟩
        rw [hbehind, hmore]
        simp

theorem arguments?_commentEnd {blanks front inner rest args behind : List Char} {c : Char}
    (hinner : '>' ∉ inner)
    (h : arguments? blanks (c :: (front ++ (inner ++ (commentEnd ++ rest)))) =
      some (args, behind)) :
    behind = rest ∨
      ∃ before more, front = before ++ (commentEnd ++ more) ∧
        behind = more ++ (inner ++ (commentEnd ++ rest)) := by
  rw [arguments?] at h
  cases hsplit : splitAround? commentEnd (front ++ (inner ++ (commentEnd ++ rest))) with
  | none =>
    rw [← List.append_assoc] at hsplit
    exact absurd hsplit (splitAround?_of_occurs _ _ _)
  | some found =>
    obtain ⟨before, behind'⟩ := found
    rw [hsplit] at h
    obtain ⟨-, rfl⟩ := Prod.mk.inj (Option.some.inj h)
    rcases splitAround?_commentEnd hinner hsplit with hrest | ⟨more, hfront, hbehind⟩
    · exact .inl hrest
    · exact .inr ⟨before, more, hfront, hbehind⟩

/-- A start marker that begins in front of an end marker ends in front of it, or together with
it. -/
theorem rest_of_startMarker?_append {front marker name rest : List Char} (hfront : front ≠ [])
    (hmarker : IsEndMarker marker name) {m : StartMarker}
    (h : startMarker? (front ++ (marker ++ rest)) = some m) :
    m.rest = rest ∨ ∃ before more, front = before ++ more ∧ before ≠ [] ∧
      m.rest = more ++ (marker ++ rest) := by
  obtain ⟨head, blanks, args, hhead, heq, -, hargs⟩ := exists_isHead_of_startMarker? h
  obtain ⟨inner, rfl, -, hgt⟩ := hmarker.eq_cons
  obtain ⟨between, rfl, rfl⟩ := hhead.exists_of_append_eq_append hfront heq.symm
  -- the arguments begin with what is left in front of the end marker, or with the end marker itself
  cases between with
  | nil =>
    have hshape : [] ++ '<' :: (inner ++ commentEnd).append rest =
        '<' :: ([] ++ (inner ++ (commentEnd ++ rest))) := by simp
    rw [hshape] at hargs
    rcases arguments?_commentEnd hgt hargs with hrest | ⟨before, more, hnil, -⟩
    · exact .inl hrest
    · simp [commentEnd] at hnil
  | cons c between =>
    have hshape : c :: between ++ '<' :: (inner ++ commentEnd).append rest =
        c :: (between ++ ('<' :: inner ++ (commentEnd ++ rest))) := by simp
    have hgt' : '>' ∉ '<' :: inner := by simp [hgt]
    rw [hshape] at hargs
    rcases arguments?_commentEnd hgt' hargs with hrest | ⟨before, more, rfl, hbehind⟩
    · exact .inl hrest
    · exact .inr
        ⟨head ++ c :: (before ++ commentEnd), more, by simp, by simp, by simpa using hbehind⟩

/-- Behind an end marker the scan goes on as if it had begun there, whatever it has come to in front
of the marker. -/
theorem scanStarts_append_endMarker {marker name : List Char} (hmarker : IsEndMarker marker name)
    (offset : Nat) (body rest : List Char) :
    ∃ inside, scanStarts offset (body ++ (marker ++ rest)) =
        inside ++ scanStarts (offset + byteSize body + byteSize marker) rest ∧
      ∀ s ∈ inside, offset ≤ s.range.start ∧ s.range.start < offset + byteSize body := by
  induction hlength : body.length using Nat.strong_induction_on generalizing offset body with
  | _ n ih =>
  subst hlength
  cases body with
  | nil =>
    refine ⟨[], ?_, by simp⟩
    rw [List.nil_append, List.nil_append,
      scanStarts_append_of_none (fun part hpart hne => hmarker.startMarker?_append hpart hne rest)]
    simp
  | cons c body =>
    cases hs : startMarker? (c :: body ++ (marker ++ rest)) with
    | none =>
      obtain ⟨inside, heq, hinside⟩ := ih body.length (by simp) (offset + c.utf8Size) body rfl
      refine ⟨inside, ?_, fun s hs => ?_⟩
      · rw [List.cons_append] at hs ⊢
        rw [scanStarts_cons_of_none hs, heq, byteSize_cons, Nat.add_assoc offset]
      · have hrange := hinside s hs
        rw [byteSize_cons]
        omega
    | some m =>
      obtain ⟨name', args', rest'⟩ := m
      have hpos := byteSize_pos (List.cons_ne_nil c body)
      rcases rest_of_startMarker?_append (List.cons_ne_nil c body) hmarker hs with hrest | hrest
      · -- the start marker swallows the end marker
        obtain rfl : rest' = rest := hrest
        rw [← List.append_assoc] at hs ⊢
        rw [scanStarts_append_of_some hs, byteSize_append, ← Nat.add_assoc]
        refine ⟨[_], rfl, fun s hs => ?_⟩
        obtain rfl := List.mem_singleton.1 hs
        exact ⟨Nat.le_refl _, by simpa using hpos⟩
      · obtain ⟨before, more, hbody, hne, hrest⟩ := hrest
        obtain rfl : rest' = more ++ (marker ++ rest) := hrest
        have hbefore := byteSize_pos hne
        have hshorter : more.length < (c :: body).length := by
          have hlength := List.length_pos_of_ne_nil hne
          rw [hbody, List.length_append]
          omega
        obtain ⟨inside, heq, hinside⟩ := ih more.length hshorter (offset + byteSize before) more rfl
        rw [hbody] at hs hpos ⊢
        rw [List.append_assoc] at hs ⊢
        rw [scanStarts_append_of_some hs, heq, byteSize_append]
        refine ⟨_ :: inside, by rw [List.cons_append, Nat.add_assoc offset], fun s hs => ?_⟩
        rcases List.mem_cons.1 hs with rfl | hs
        · exact ⟨Nat.le_refl _, by dsimp only; omega⟩
        · have hrange := hinside s hs
          omega

/-- The scan comes to the start marker of a directive, perhaps to others inside of the directive,
and goes on behind the directive. -/
theorem IsCutBefore.scanStarts_eq {d : Directive} {rest : List Char} (h : IsCutBefore d rest)
    (offset : Nat) :
    ∃ inside, scanStarts offset (d.toList ++ rest) =
        ⟨⟨d.name, d.args, d.body ++ (d.endMarker ++ rest)⟩,
          ⟨offset, offset + byteSize d.startMarker⟩⟩ ::
          (inside ++ scanStarts (offset + byteSize d.toList) rest) ∧
      ∀ s ∈ inside, offset < s.range.start ∧ s.range.start < offset + byteSize d.toList := by
  obtain ⟨inside, heq, hinside⟩ := scanStarts_append_endMarker h.isEndMarker
    (offset + byteSize d.startMarker) d.body rest
  have hsize :
      byteSize d.toList = byteSize d.startMarker + byteSize d.body + byteSize d.endMarker := by
    rw [Directive.toList, byteSize_append, byteSize_append]
  refine ⟨inside, ?_, fun s hs => ?_⟩
  · rw [hsize, Directive.toList, List.append_assoc, List.append_assoc,
      scanStarts_append_of_some h.startMarker?_eq, heq, ← Nat.add_assoc, ← Nat.add_assoc]
  · have hrange := hinside s hs
    have hstart : 0 < byteSize d.startMarker := by
      obtain ⟨inner, hmarker⟩ := h.isStartMarker.eq_comment
      apply byteSize_pos
      simp [hmarker, commentStart]
    omega

end Document

end NoteQuery
