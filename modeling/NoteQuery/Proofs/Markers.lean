import NoteQuery.Document.Basic
import Mathlib.Data.List.Basic
import Mathlib.Data.List.TakeWhile

/-!
# Markers and how far they look

A marker is read at the front of a text that goes on behind it. What is read has the shape of a
marker (`IsEndMarker`, `IsStartMarker`), and where a text of that shape stands a marker is read.
This file also says which part of the text decides what is read, so that the text behind that part
can be exchanged:

* an end marker is decided by the text up to the first `>` (`endMarker?_append`);
* the head of a start marker, from `<!--` to the blanks behind the name, is decided by itself and by
  the character behind it (`IsHead.startMarker?_append`), and its arguments by the text up to the
  first `-->` (`startMarker?_exchange`).
-/

namespace NoteQuery

/-! ## Cutting texts -/

namespace Text

/-- A character outside the class ends a run. -/
theorem takeWhile_append_stop {p : Char → Bool} (front : List Char) {c : Char} (hc : p c = false)
    (rest : List Char) : (front ++ c :: rest).takeWhile p = front.takeWhile p := by
  induction front with
  | nil => simp [hc]
  | cons d front ih => by_cases hd : p d <;> simp [hd, ih]

theorem dropWhile_append_stop {p : Char → Bool} (front : List Char) {c : Char} (hc : p c = false)
    (rest : List Char) : (front ++ c :: rest).dropWhile p = front.dropWhile p ++ c :: rest := by
  induction front with
  | nil => simp [hc]
  | cons d front ih => by_cases hd : p d <;> simp [hd, ih]

theorem after?_append_self (lead rest : List Char) : after? lead (lead ++ rest) = some rest := by
  simp [after?]

/-- A lead without the character `c` does not reach behind it. -/
theorem after?_append_stop {lead : List Char} (front : List Char) {c : Char} (hc : c ∉ lead)
    (rest : List Char) :
    after? lead (front ++ c :: rest) = (after? lead front).map (fun r => r ++ c :: rest) := by
  induction lead generalizing front with
  | nil => simp [after?]
  | cons d lead ih =>
    rw [List.mem_cons, not_or] at hc
    cases front with
    | nil =>
      have hdc : d ≠ c := fun he => hc.1 he.symm
      simp [after?, hdc]
    | cons e front =>
      have htail := ih front hc.2
      by_cases hde : d = e
      · subst hde
        simpa [after?] using htail
      · simp [after?, hde]

/-- The first occurrence of a part stays the first one when the text behind it is exchanged. -/
theorem splitAround?_exchange {part cs before rest : List Char}
    (h : splitAround? part cs = some (before, rest)) (other : List Char) :
    splitAround? part (before ++ (part ++ other)) = some (before, other) := by
  induction cs generalizing before rest with
  | nil =>
    simp only [splitAround?] at h
    split at h
    · rename_i hp
      obtain rfl := List.isEmpty_iff.1 hp
      obtain ⟨rfl, rfl⟩ : [] = before ∧ [] = rest := by simpa using h
      cases other <;> simp [splitAround?, after?]
    · simp at h
  | cons c cs ih =>
    have hcs := eq_append_of_splitAround? h
    simp only [splitAround?] at h
    split at h
    · obtain ⟨rfl, rfl⟩ := Prod.mk.inj (Option.some.inj h)
      have hself := after?_append_self part other
      rw [List.nil_append]
      cases happ : part ++ other with
      | nil =>
        obtain ⟨rfl, rfl⟩ := List.append_eq_nil_iff.1 happ
        rfl
      | cons d ds => rw [splitAround?, ← happ, hself]
    · rename_i hnone
      obtain ⟨⟨b, r⟩, hs, he⟩ := Option.map_eq_some_iff.1 h
      obtain ⟨rfl, rfl⟩ := Prod.mk.inj he
      -- a part that began at `c` would lie in front of what has been exchanged
      have hnone' : after? part (c :: b ++ (part ++ other)) = none := by
        unfold after? at hnone ⊢
        rw [if_neg]
        intro hp
        have hp := List.isPrefixOf_iff_prefix.1 hp
        have hlen : part.length ≤ (c :: b ++ part).length := by
          rw [List.length_append]
          omega
        rw [← List.append_assoc] at hp
        have hfront := List.prefix_of_prefix_length_le hp (List.prefix_append _ _) hlen
        have : part <+: c :: cs := by
          rw [hcs, ← List.append_assoc]
          exact hfront.trans (List.prefix_append _ _)
        simp [List.isPrefixOf_iff_prefix.2 this] at hnone
      rw [List.cons_append] at hnone' ⊢
      rw [splitAround?, hnone', ih hs]
      rfl

theorem splitAround?_of_occurs (part front rest : List Char) :
    splitAround? part (front ++ (part ++ rest)) ≠ none := by
  induction front with
  | nil =>
    have hself := after?_append_self part rest
    rw [List.nil_append]
    cases happ : part ++ rest with
    | nil =>
      obtain ⟨rfl, rfl⟩ := List.append_eq_nil_iff.1 happ
      simp [splitAround?]
    | cons c cs =>
      rw [splitAround?, ← happ, hself]
      simp
  | cons c front ih =>
    rw [List.cons_append, splitAround?]
    split
    · simp
    · simpa using ih

end Text

namespace Document

open Text Unicode

/-! ## Characters of markers -/

theorem isBlank_lt : isBlank '<' = false := by decide

theorem isBlank_gt : isBlank '>' = false := by decide

theorem isNameChar_lt : isNameChar '<' = false := by decide

theorem isNameChar_gt : isNameChar '>' = false := by decide

theorem isBlank_hyphen : isBlank '-' = false := by decide

theorem isNameChar_hyphen : isNameChar '-' = true := by decide

theorem isNameChar_of_isBlank {c : Char} (h : isBlank c = true) : isNameChar c = false := by
  have hne : c ≠ '-' := by
    rintro rfl
    exact absurd h (by decide)
  simp [isNameChar, isWord_of_isBlank h, hne]

/-! ## What stands in front of a marker's name -/

theorem eq_append_of_afterSign? {sign : Char} {cs named : List Char}
    (h : afterSign? sign cs = some named) :
    ∃ blanks, (∀ c ∈ blanks, isBlank c = true) ∧
      cs = commentStart ++ (blanks ++ sign :: named) := by
  simp only [afterSign?, Option.bind_eq_bind, Option.bind_eq_some_iff] at h
  obtain ⟨inner, hinner, hsign⟩ := h
  refine ⟨inner.takeWhile isBlank, fun c hc => List.mem_takeWhile_imp hc, ?_⟩
  have hrest : inner.dropWhile isBlank = sign :: named := eq_append_of_after? hsign
  rw [← hrest, List.takeWhile_append_dropWhile, eq_append_of_after? hinner]

theorem afterSign?_of_eq_append {sign : Char} (hsign : isBlank sign = false) {blanks : List Char}
    (hblanks : ∀ c ∈ blanks, isBlank c = true) (named : List Char) :
    afterSign? sign (commentStart ++ (blanks ++ sign :: named)) = some named := by
  have hdrop : (blanks ++ sign :: named).dropWhile isBlank = sign :: named := by
    rw [List.dropWhile_append_of_pos hblanks, List.dropWhile_cons_of_neg (by simp [hsign])]
  unfold afterSign?
  rw [after?_append_self]
  show after? [sign] ((blanks ++ sign :: named).dropWhile isBlank) = some named
  rw [hdrop]
  exact after?_append_self [sign] named

/-- A sign is not looked for behind a `>`. -/
private theorem afterSign?_append_stop {sign : Char} (hsign : '>' ≠ sign) (front rest : List Char) :
    afterSign? sign (front ++ '>' :: rest) =
      (afterSign? sign front).map (fun r => r ++ '>' :: rest) := by
  unfold afterSign?
  rw [after?_append_stop front (by decide)]
  cases after? commentStart front with
  | none => rfl
  | some inner =>
    show after? [sign] ((inner ++ '>' :: rest).dropWhile isBlank) =
      (after? [sign] (inner.dropWhile isBlank)).map (fun r => r ++ '>' :: rest)
    rw [dropWhile_append_stop inner isBlank_gt, after?_append_stop]
    simpa using hsign

/-! ## End markers -/

/-- The end of a comment at the front of a text takes in the first `>`. -/
private theorem after?_commentEnd_append {front : List Char} (hfront : '>' ∉ front)
    (rest : List Char) :
    after? commentEnd (front ++ '>' :: rest) = if front = ['-', '-'] then some rest else none := by
  match front, hfront with
  | [], _ => simp [after?, commentEnd]
  | [c], _ => simp [after?, commentEnd]
  | [c, d], _ =>
    have hiff : [c, d] = ['-', '-'] ↔ '-' = c ∧ '-' = d := by simp [eq_comm]
    simp only [hiff]
    simp [after?, commentEnd]
  | c :: d :: e :: front, hfront =>
    have he : '>' ≠ e := by
      rintro rfl
      simp at hfront
    simp [after?, commentEnd, he]

private theorem closingComment?_append (run : List Char) {front : List Char}
    (hfront : '>' ∉ front) :
    ∃ name? : Option (List Char), ∀ rest,
      closingComment? run (front ++ '>' :: rest) = name?.map (fun name => ⟨name, rest⟩) := by
  cases front with
  | nil =>
    -- the `--` may be the end of the run
    refine ⟨if run.take (run.length - 2) ≠ [] ∧ run = run.take (run.length - 2) ++ ['-', '-'] then
      some (run.take (run.length - 2)) else none, fun rest => ?_⟩
    rw [List.nil_append, closingComment?, if_pos rfl]
    dsimp only
    split <;> rfl
  | cons c others =>
    have hc : c ≠ '>' := fun he => hfront (by simp [he])
    -- the `--` stands behind the blanks that follow the run
    have hblanks : '>' ∉ (c :: others).dropWhile isBlank :=
      fun hm => hfront ((List.dropWhile_sublist _).subset hm)
    refine ⟨if run.isEmpty then none
      else if (c :: others).dropWhile isBlank = ['-', '-'] then some run else none, fun rest => ?_⟩
    rw [List.cons_append, closingComment?, if_neg hc, ← List.cons_append,
      dropWhile_append_stop _ isBlank_gt, after?_commentEnd_append hblanks]
    split
    · rfl
    · split <;> rfl

/-- Which end marker stands at the front of a text is decided by the text up to the first `>`. -/
theorem endMarker?_append {front : List Char} (hfront : '>' ∉ front) :
    ∃ name? : Option (List Char), ∀ rest,
      endMarker? (front ++ '>' :: rest) = name?.map (fun name => ⟨name, rest⟩) := by
  cases hsign : afterSign? '/' front with
  | none =>
    refine ⟨none, fun rest => ?_⟩
    rw [endMarker?, afterSign?_append_stop (by decide), hsign]
    rfl
  | some named =>
    obtain ⟨blanks, -, heq⟩ := eq_append_of_afterSign? hsign
    have hnamed : '>' ∉ named.dropWhile isNameChar := by
      intro hm
      have hm := (List.dropWhile_sublist _).subset hm
      exact hfront (by rw [heq]; simp [hm])
    obtain ⟨name?, hname⟩ := closingComment?_append (named.takeWhile isNameChar) hnamed
    refine ⟨name?, fun rest => ?_⟩
    rw [endMarker?, afterSign?_append_stop (by decide), hsign, ← hname rest]
    show closingComment? ((named ++ '>' :: rest).takeWhile isNameChar)
      ((named ++ '>' :: rest).dropWhile isNameChar) = _
    rw [takeWhile_append_stop _ isNameChar_gt, dropWhile_append_stop _ isNameChar_gt]

/-- A whole end marker. Blanks may stand in front of the slash and behind the name. -/
structure IsEndMarker (marker name : List Char) : Prop where
  eq_append : ∃ gap gap', (∀ c ∈ gap, isBlank c = true) ∧ (∀ c ∈ gap', isBlank c = true) ∧
    marker = commentStart ++ (gap ++ '/' :: (name ++ (gap' ++ commentEnd)))
  name_ne_nil : name ≠ []
  isNameChar_of_mem : ∀ c ∈ name, isNameChar c = true

/-- The rest of an end marker, behind its slash. -/
private theorem eq_append_of_closingComment? {run behind : List Char} {m : EndMarker}
    (h : closingComment? run behind = some m) :
    m.name ≠ [] ∧ (∀ c ∈ m.name, c ∈ run) ∧ ∃ gap, (∀ c ∈ gap, isBlank c = true) ∧
      run ++ behind = m.name ++ (gap ++ (commentEnd ++ m.rest)) := by
  unfold closingComment? at h
  split at h
  · simp at h
  · rename_i c others
    split at h
    · -- the run ends with the hyphens of the comment
      rename_i hc
      dsimp only at h
      split at h
      · rename_i hrun
        obtain rfl := Option.some.inj h
        refine ⟨hrun.1, fun c hc => List.mem_of_mem_take hc, [], by simp, ?_⟩
        rw [hc]
        nth_rewrite 1 [hrun.2]
        simp [commentEnd]
      · simp at h
    · split at h
      · simp at h
      · rename_i hne
        obtain ⟨rest, hr, rfl⟩ := Option.map_eq_some_iff.1 h
        refine ⟨fun he => hne (List.isEmpty_iff.2 he), fun c hc => hc,
          (c :: others).takeWhile isBlank, fun c hc => List.mem_takeWhile_imp hc, ?_⟩
        rw [← eq_append_of_after? hr, List.takeWhile_append_dropWhile]

theorem exists_isEndMarker_of_endMarker? {cs : List Char} {m : EndMarker}
    (h : endMarker? cs = some m) : ∃ marker, IsEndMarker marker m.name ∧ cs = marker ++ m.rest := by
  simp only [endMarker?, Option.bind_eq_bind, Option.bind_eq_some_iff] at h
  obtain ⟨named, hsign, hclose⟩ := h
  obtain ⟨gap, hgap, rfl⟩ := eq_append_of_afterSign? hsign
  obtain ⟨hne, hsub, gap', hgap', heq⟩ := eq_append_of_closingComment? hclose
  rw [List.takeWhile_append_dropWhile] at heq
  refine ⟨_, ⟨⟨gap, gap', hgap, hgap', rfl⟩, hne, fun c hc => ?_⟩, by simp [heq]⟩
  exact List.mem_takeWhile_imp (hsub c hc)

theorem isEndMarker_of_endMarker?_append {marker name rest : List Char}
    (h : endMarker? (marker ++ rest) = some ⟨name, rest⟩) : IsEndMarker marker name := by
  obtain ⟨marker', hmarker, heq⟩ := exists_isEndMarker_of_endMarker? h
  rwa [List.append_cancel_right heq]

/-- An end marker is one comment. -/
theorem IsEndMarker.eq_comment {marker name : List Char} (h : IsEndMarker marker name) :
    ∃ inner, marker = commentStart ++ (inner ++ commentEnd) := by
  obtain ⟨gap, gap', -, -, rfl⟩ := h.eq_append
  exact ⟨gap ++ '/' :: (name ++ gap'), by simp⟩

private theorem ne_of_isBlank {c : Char} (h : isBlank c = true) : c ≠ '<' ∧ c ≠ '>' := by
  constructor
  · rintro rfl
    simp [isBlank_lt] at h
  · rintro rfl
    simp [isBlank_gt] at h

private theorem ne_of_isNameChar {c : Char} (h : isNameChar c = true) : c ≠ '<' ∧ c ≠ '>' := by
  constructor
  · rintro rfl
    simp [isNameChar_lt] at h
  · rintro rfl
    simp [isNameChar_gt] at h

/-- A last part of a comment takes in its last character. -/
theorem gt_mem_of_suffix {front part : List Char} (hpart : part <:+ front ++ commentEnd)
    (hne : part ≠ []) : '>' ∈ part := by
  obtain ⟨lead, heq⟩ := hpart
  rcases List.eq_nil_or_concat part with rfl | ⟨init, last, rfl⟩
  · exact absurd rfl hne
  · have hlast : lead ++ init ++ [last] = front ++ ['-', '-'] ++ ['>'] := by
      simpa [commentEnd] using heq
    have hgt := (List.append_inj' hlast rfl).2
    simp [List.cons.inj hgt]

/-- The only `<` and the only `>` of an end marker are those of its comment. -/
theorem IsEndMarker.eq_cons {marker name : List Char} (h : IsEndMarker marker name) :
    ∃ inner, marker = '<' :: (inner ++ commentEnd) ∧ '<' ∉ inner ∧ '>' ∉ inner := by
  obtain ⟨gap, gap', hgap, hgap', rfl⟩ := h.eq_append
  suffices hinner : ∀ c ∈ ['!', '-', '-'] ++ (gap ++ '/' :: (name ++ gap')), c ≠ '<' ∧ c ≠ '>' from
    ⟨_, by simp [commentStart], fun hm => (hinner _ hm).1 rfl, fun hm => (hinner _ hm).2 rfl⟩
  intro c hc
  rcases List.mem_append.1 hc with hc | hc
  · have hopening : ∀ d ∈ ['!', '-', '-'], d ≠ '<' ∧ d ≠ '>' := by simp
    exact hopening c hc
  · rcases List.mem_append.1 hc with hc | hc
    · exact ne_of_isBlank (hgap c hc)
    · rcases List.mem_cons.1 hc with rfl | hc
      · decide
      · rcases List.mem_append.1 hc with hc | hc
        · exact ne_of_isNameChar (h.isNameChar_of_mem c hc)
        · exact ne_of_isBlank (hgap' c hc)

theorem eq_append_of_endMarker? {cs : List Char} {m : EndMarker} (h : endMarker? cs = some m) :
    ∃ inner, cs = commentStart ++ (inner ++ (commentEnd ++ m.rest)) := by
  obtain ⟨marker, hmarker, rfl⟩ := exists_isEndMarker_of_endMarker? h
  obtain ⟨inner, rfl⟩ := hmarker.eq_comment
  exact ⟨inner, by simp⟩

/-- An end marker is read wherever it stands. -/
theorem IsEndMarker.endMarker?_append {marker name : List Char} (h : IsEndMarker marker name)
    (rest : List Char) : endMarker? (marker ++ rest) = some ⟨name, rest⟩ := by
  obtain ⟨gap, gap', hgap, hgap', rfl⟩ := h.eq_append
  have hassoc : commentStart ++ (gap ++ '/' :: (name ++ (gap' ++ commentEnd))) ++ rest =
      commentStart ++ (gap ++ '/' :: (name ++ (gap' ++ (commentEnd ++ rest)))) := by simp
  rw [hassoc, endMarker?, afterSign?_of_eq_append (by decide) hgap]
  show closingComment? ((name ++ (gap' ++ (commentEnd ++ rest))).takeWhile isNameChar)
    ((name ++ (gap' ++ (commentEnd ++ rest))).dropWhile isNameChar) = _
  rw [List.takeWhile_append_of_pos h.isNameChar_of_mem,
    List.dropWhile_append_of_pos h.isNameChar_of_mem]
  cases gap' with
  | nil =>
    -- the name is followed by `-->`, and its run takes in the hyphens
    have htake : ([] ++ (commentEnd ++ rest)).takeWhile isNameChar = ['-', '-'] := by
      simp [commentEnd, isNameChar_hyphen, isNameChar_gt]
    have hdrop : ([] ++ (commentEnd ++ rest)).dropWhile isNameChar = '>' :: rest := by
      simp [commentEnd, isNameChar_hyphen, isNameChar_gt]
    rw [htake, hdrop, closingComment?, if_pos rfl]
    simp [h.name_ne_nil]
  | cons b gap' =>
    have hb := hgap' b (by simp)
    have hstop := isNameChar_of_isBlank hb
    have hgt : b ≠ '>' := by
      rintro rfl
      exact absurd hb (by simp [isBlank_gt])
    have hdrop : (b :: (gap' ++ (commentEnd ++ rest))).dropWhile isBlank = commentEnd ++ rest := by
      rw [← List.cons_append, List.dropWhile_append_of_pos hgap']
      simp [commentEnd, isBlank_hyphen]
    rw [List.cons_append, List.takeWhile_cons_of_neg (by simp [hstop]),
      List.dropWhile_cons_of_neg (by simp [hstop]), List.append_nil, closingComment?, if_neg hgt,
      if_neg (by simpa using h.name_ne_nil), hdrop, after?_append_self]
    rfl

/-! ## Start markers -/

/-- The head of a start marker: its name, and what stands in front of it and behind it up to the
arguments. -/
structure IsHead (head name blanks : List Char) : Prop where
  eq_append : ∃ gap, (∀ c ∈ gap, isBlank c = true) ∧
    head = commentStart ++ (gap ++ '#' :: (name ++ blanks))
  name_ne_nil : name ≠ []
  isNameChar_of_mem : ∀ c ∈ name, isNameChar c = true
  blanks_ne_nil : blanks ≠ []
  isBlank_of_mem : ∀ c ∈ blanks, isBlank c = true

namespace IsHead

variable {head name blanks : List Char}

/-- A head opens one comment only. -/
theorem eq_cons (h : IsHead head name blanks) : ∃ tail, head = '<' :: tail ∧ '<' ∉ tail := by
  obtain ⟨gap, hgap, rfl⟩ := h.eq_append
  refine ⟨_, rfl, fun hm => ?_⟩
  simp only [List.append_eq, List.nil_append, List.cons_append, List.mem_cons,
    List.mem_append] at hm
  rcases hm with hm | hm | hm | hm | hm | hm | hm
  · exact absurd hm (by decide)
  · exact absurd hm (by decide)
  · exact absurd hm (by decide)
  · exact absurd (hgap _ hm) (by simp [isBlank_lt])
  · exact absurd hm (by decide)
  · exact absurd (h.isNameChar_of_mem _ hm) (by simp [isNameChar_lt])
  · exact absurd (h.isBlank_of_mem _ hm) (by simp [isBlank_lt])

/-- A head that begins in front of another `<` also ends in front of it. -/
theorem exists_of_append_eq_append (h : IsHead head name blanks) {front inner more : List Char}
    (hfront : front ≠ []) (heq : head ++ inner = front ++ '<' :: more) :
    ∃ between, front = head ++ between ∧ inner = between ++ '<' :: more := by
  obtain ⟨tail, htail, hlt⟩ := h.eq_cons
  rcases List.append_eq_append_iff.1 heq with ⟨beyond, hbeyond, hrest⟩ | ⟨beyond, hbeyond, hrest⟩
  · exact ⟨beyond, hbeyond, hrest⟩
  · cases beyond with
    | nil => exact ⟨[], by simpa using hbeyond.symm, by simpa using hrest.symm⟩
    | cons c beyond =>
      exfalso
      obtain ⟨rfl, -⟩ := List.cons.inj hrest
      obtain ⟨d, ds, rfl⟩ := List.exists_cons_of_ne_nil hfront
      rw [htail] at hbeyond
      exact hlt (by rw [(List.cons.inj hbeyond).2]; simp)

/-- Behind a head only the arguments are left to be read. -/
theorem startMarker?_append (h : IsHead head name blanks) {inner : List Char}
    (hinner : ∀ c ∈ inner.head?, isBlank c = false) :
    startMarker? (head ++ inner) =
      (arguments? blanks inner).map (fun (args, rest) => ⟨name, args, rest⟩) := by
  obtain ⟨gap, hgap, rfl⟩ := h.eq_append
  have hassoc : commentStart ++ (gap ++ '#' :: (name ++ blanks)) ++ inner =
      commentStart ++ (gap ++ '#' :: (name ++ (blanks ++ inner))) := by simp
  have htakeName : (name ++ (blanks ++ inner)).takeWhile isNameChar = name := by
    obtain ⟨b, bs, rfl⟩ := List.exists_cons_of_ne_nil h.blanks_ne_nil
    have hb := isNameChar_of_isBlank (h.isBlank_of_mem b (by simp))
    rw [List.cons_append, takeWhile_append_stop name hb, List.takeWhile_eq_self_iff]
    exact h.isNameChar_of_mem
  have hdropName : (name ++ (blanks ++ inner)).dropWhile isNameChar = blanks ++ inner := by
    have hsplit :=
      List.takeWhile_append_dropWhile (p := isNameChar) (l := name ++ (blanks ++ inner))
    rw [htakeName] at hsplit
    exact List.append_cancel_left hsplit
  have htakeInner : inner.takeWhile isBlank = [] := by
    cases inner with
    | nil => rfl
    | cons c inner => simp [hinner c rfl]
  have htakeBlanks : (blanks ++ inner).takeWhile isBlank = blanks := by
    rw [List.takeWhile_append_of_pos h.isBlank_of_mem, htakeInner, List.append_nil]
  have hdropBlanks : (blanks ++ inner).dropWhile isBlank = inner := by
    have hsplit := List.takeWhile_append_dropWhile (p := isBlank) (l := blanks ++ inner)
    rw [htakeBlanks] at hsplit
    exact List.append_cancel_left hsplit
  rw [hassoc, startMarker?, afterSign?_of_eq_append (by decide) hgap]
  simp only [Option.bind_eq_bind, Option.bind_some, htakeName, hdropName, htakeBlanks, hdropBlanks,
    List.isEmpty_eq_false_iff.2 h.name_ne_nil, List.isEmpty_eq_false_iff.2 h.blanks_ne_nil]
  cases arguments? blanks inner <;> rfl

end IsHead

/-- A start marker has a head, and its arguments follow. -/
theorem exists_isHead_of_startMarker? {cs : List Char} {m : StartMarker}
    (h : startMarker? cs = some m) :
    ∃ head blanks inner, IsHead head m.name blanks ∧ cs = head ++ inner ∧
      (∀ c ∈ inner.head?, isBlank c = false) ∧
      arguments? blanks inner = some (m.args, m.rest) := by
  simp only [startMarker?, Option.bind_eq_bind, Option.bind_eq_some_iff] at h
  obtain ⟨named, hsign, h⟩ := h
  obtain ⟨gap, hgap, rfl⟩ := eq_append_of_afterSign? hsign
  split at h
  · simp at h
  · rename_i hne
    obtain ⟨⟨args, rest⟩, hargs, he⟩ := Option.bind_eq_some_iff.1 h
    simp only [Option.pure_def, Option.some.injEq] at he
    subst he
    simp only [Bool.or_eq_true, List.isEmpty_iff, not_or] at hne
    refine ⟨_, _, _, ⟨⟨gap, hgap, rfl⟩, hne.1, fun c hc => List.mem_takeWhile_imp hc, hne.2,
      fun c hc => List.mem_takeWhile_imp hc⟩, ?_, ?_, hargs⟩
    · simp
    · intro c hc
      have hnot := List.head?_dropWhile_not isBlank (named.dropWhile isNameChar)
      rw [Option.mem_def.1 hc] at hnot
      simpa using hnot

/-- A whole start marker: a head, at least one character of arguments, and the end of the
comment. -/
structure IsStartMarker (marker name args : List Char) : Prop where
  eq_append : ∃ head blanks, IsHead head name blanks ∧ marker = head ++ (args ++ commentEnd)
  args_ne_nil : args ≠ []

/-- A head without some of its blanks is a head. -/
theorem IsHead.of_append {head name blanks more : List Char} (h : IsHead head name (blanks ++ more))
    (hblanks : blanks ≠ []) :
    ∃ front, head = front ++ more ∧ IsHead front name blanks := by
  obtain ⟨gap, hgap, rfl⟩ := h.eq_append
  refine ⟨commentStart ++ (gap ++ '#' :: (name ++ blanks)), by simp, ⟨gap, hgap, rfl⟩,
    h.name_ne_nil, h.isNameChar_of_mem, hblanks,
    fun c hc => h.isBlank_of_mem c (List.mem_append_left _ hc)⟩

/-- A head with more blanks behind it is a head. -/
theorem IsHead.append {head name blanks more : List Char} (h : IsHead head name blanks)
    (hmore : ∀ c ∈ more, isBlank c = true) : IsHead (head ++ more) name (blanks ++ more) := by
  obtain ⟨gap, hgap, rfl⟩ := h.eq_append
  refine ⟨⟨gap, hgap, by simp⟩, h.name_ne_nil, h.isNameChar_of_mem,
    List.append_ne_nil_of_left_ne_nil h.blanks_ne_nil more, fun c hc => ?_⟩
  rcases List.mem_append.1 hc with hc | hc
  · exact h.isBlank_of_mem c hc
  · exact hmore c hc

theorem exists_isStartMarker_of_startMarker? {cs : List Char} {m : StartMarker}
    (h : startMarker? cs = some m) :
    ∃ marker, IsStartMarker marker m.name m.args ∧ cs = marker ++ m.rest := by
  obtain ⟨head, blanks, inner, hhead, rfl, -, hargs⟩ := exists_isHead_of_startMarker? h
  unfold arguments? at hargs
  split at hargs
  · simp at hargs
  · rename_i c others
    split at hargs
    · rename_i before behind hsplit
      obtain ⟨hbefore, rfl⟩ : c :: before = m.args ∧ behind = m.rest := by simpa using hargs
      refine ⟨head ++ (m.args ++ commentEnd), ⟨⟨head, blanks, hhead, rfl⟩, by simp [← hbefore]⟩, ?_⟩
      rw [eq_append_of_splitAround? hsplit, ← hbefore]
      simp
    · split at hargs
      · -- the last blank is all of the arguments
        rename_i hlength
        obtain ⟨rest, hrest, he⟩ := Option.map_eq_some_iff.1 hargs
        obtain ⟨hlast, rfl⟩ := Prod.mk.inj he
        have hcut := List.take_append_drop (blanks.length - 1) blanks
        have hfew : blanks.take (blanks.length - 1) ≠ [] := by
          apply List.ne_nil_of_length_pos
          rw [List.length_take]
          omega
        have hargs : m.args ≠ [] := by
          rw [← hlast]
          apply List.ne_nil_of_length_pos
          rw [List.length_drop]
          omega
        rw [← hcut, hlast] at hhead
        obtain ⟨front, rfl, hfront⟩ := hhead.of_append hfew
        refine ⟨_, ⟨⟨front, _, hfront, rfl⟩, hargs⟩, ?_⟩
        rw [eq_append_of_after? hrest]
        simp
      · simp at hargs

theorem isStartMarker_of_startMarker?_append {marker name args rest : List Char}
    (h : startMarker? (marker ++ rest) = some ⟨name, args, rest⟩) :
    IsStartMarker marker name args := by
  obtain ⟨marker', hmarker, heq⟩ := exists_isStartMarker_of_startMarker? h
  rwa [List.append_cancel_right heq]

/-- A start marker is one comment. -/
theorem IsStartMarker.eq_comment {marker name args : List Char}
    (h : IsStartMarker marker name args) :
    ∃ inner, marker = commentStart ++ (inner ++ commentEnd) := by
  obtain ⟨head, blanks, hhead, rfl⟩ := h.eq_append
  obtain ⟨gap, -, rfl⟩ := hhead.eq_append
  exact ⟨gap ++ '#' :: (name ++ (blanks ++ args)), by simp⟩

/-- Where a start marker stands, one of its name is read. Its arguments can be other ones, because
they end as soon as they can. -/
theorem IsStartMarker.exists_startMarker?_append {marker name args : List Char}
    (h : IsStartMarker marker name args) (rest : List Char) :
    ∃ args' rest', startMarker? (marker ++ rest) = some ⟨name, args', rest'⟩ := by
  obtain ⟨head, blanks, hhead, rfl⟩ := h.eq_append
  -- the blanks at the front of the arguments are read with the head
  have hmore : ∀ c ∈ args.takeWhile isBlank, isBlank c = true :=
    fun c hc => List.mem_takeWhile_imp hc
  have hsplit : head ++ (args ++ commentEnd) ++ rest = head ++ args.takeWhile isBlank ++
      (args.dropWhile isBlank ++ (commentEnd ++ rest)) := by
    rw [List.append_assoc head (args.takeWhile isBlank),
      ← List.append_assoc (args.takeWhile isBlank), List.takeWhile_append_dropWhile]
    simp
  have hinner :
      ∀ c ∈ (args.dropWhile isBlank ++ (commentEnd ++ rest)).head?, isBlank c = false := by
    intro c hc
    cases hdrop : args.dropWhile isBlank with
    | nil =>
      rw [hdrop] at hc
      obtain rfl : '-' = c := Option.some.inj hc
      exact isBlank_hyphen
    | cons d others =>
      rw [hdrop] at hc
      obtain rfl : d = c := Option.some.inj hc
      have hnot := List.head?_dropWhile_not isBlank args
      rw [hdrop] at hnot
      simpa using hnot
  have hfound : ∃ args' rest', arguments? (blanks ++ args.takeWhile isBlank)
      (args.dropWhile isBlank ++ (commentEnd ++ rest)) = some (args', rest') := by
    cases hdrop : args.dropWhile isBlank with
    | nil =>
      have hargs : args.takeWhile isBlank = args := by
        have hall := List.takeWhile_append_dropWhile (p := isBlank) (l := args)
        rwa [hdrop, List.append_nil] at hall
      have hlength : 2 ≤ (blanks ++ args).length := by
        have hblanks := List.length_pos_of_ne_nil hhead.blanks_ne_nil
        have hargs := List.length_pos_of_ne_nil h.args_ne_nil
        rw [List.length_append]
        omega
      rw [hargs]
      show ∃ args' rest', arguments? (blanks ++ args) ('-' :: ('-' :: '>' :: rest)) =
        some (args', rest')
      rw [arguments?]
      split
      · exact ⟨_, _, rfl⟩
      · rw [if_pos hlength]
        exact ⟨_, _, rfl⟩
    | cons c others =>
      rw [List.cons_append, arguments?]
      cases hfound : splitAround? commentEnd (others ++ (commentEnd ++ rest)) with
      | none => exact absurd hfound (splitAround?_of_occurs _ _ _)
      | some found => exact ⟨_, _, rfl⟩
  obtain ⟨args', rest', hfound⟩ := hfound
  refine ⟨args', rest', ?_⟩
  rw [hsplit, (hhead.append hmore).startMarker?_append hinner, hfound]
  rfl

/-- What follows a start marker can be exchanged, unless no comment ends behind it. -/
theorem startMarker?_exchange {front name args rest : List Char}
    (h : startMarker? (front ++ rest) = some ⟨name, args, rest⟩) :
    (∀ other, startMarker? (front ++ other) = some ⟨name, args, other⟩) ∨
      ¬ commentEnd <:+: rest := by
  obtain ⟨head, blanks, inner, hhead, heq, hinner, hargs⟩ := exists_isHead_of_startMarker? h
  dsimp only at hhead hargs
  cases inner with
  | nil => simp [arguments?] at hargs
  | cons c others =>
    rw [arguments?] at hargs
    cases hsplit : splitAround? commentEnd others with
    | some found =>
      -- a comment ends behind the first character of the arguments: they end there
      left
      intro other
      obtain ⟨before, behind⟩ := found
      rw [hsplit] at hargs
      obtain ⟨rfl, rfl⟩ : c :: before = args ∧ behind = rest := by simpa using hargs
      have hothers := eq_append_of_splitAround? hsplit
      have hfront : front = head ++ c :: (before ++ commentEnd) := by
        refine (List.append_left_inj behind).1 ?_
        rw [heq, hothers]
        simp
      have hassoc : front ++ other = head ++ c :: (before ++ (commentEnd ++ other)) := by
        rw [hfront]
        simp
      have hinner' : ∀ d ∈ (c :: (before ++ (commentEnd ++ other))).head?, isBlank d = false :=
        hinner
      rw [hassoc, hhead.startMarker?_append hinner', arguments?,
        splitAround?_exchange hsplit other]
      rfl
    | none =>
      -- the arguments end at once, so a later end of a comment would have been found
      right
      rintro ⟨before, behind, rfl⟩
      rw [hsplit] at hargs
      dsimp only at hargs
      split at hargs
      · obtain ⟨rest, hrest, he⟩ := Option.map_eq_some_iff.1 hargs
        obtain ⟨-, rfl⟩ := Prod.mk.inj he
        have hrest := eq_append_of_after? hrest
        obtain ⟨-, rfl⟩ := List.cons.inj hrest
        exact splitAround?_of_occurs commentEnd (['-', '>'] ++ before) behind (by
          rw [← hsplit]
          simp [commentEnd])
      · simp at hargs

/-- Behind the first character of a text, whether a start marker stands at its front does not depend
on what follows the next whole comment. -/
theorem startMarker?_eq_none_exchange {front : List Char} (hfront : front ≠ [])
    {comment inner : List Char} (hcomment : comment = commentStart ++ (inner ++ commentEnd))
    {rest : List Char} (h : startMarker? (front ++ (comment ++ rest)) = none) (other : List Char) :
    startMarker? (front ++ (comment ++ other)) = none := by
  by_contra hsome
  obtain ⟨m, hm⟩ := Option.ne_none_iff_exists'.1 hsome
  obtain ⟨head, blanks, args, hhead, heq, hargs, -⟩ := exists_isHead_of_startMarker? hm
  obtain ⟨between, rfl, rfl⟩ : ∃ between, front = head ++ between ∧
      args = between ++ (comment ++ other) := by
    rw [hcomment] at heq ⊢
    exact hhead.exists_of_append_eq_append hfront heq.symm
  have hargs' : ∀ c ∈ (between ++ (comment ++ rest)).head?, isBlank c = false := by
    cases between with
    | nil =>
      intro c hc
      obtain rfl : '<' = c := by simpa [hcomment, commentStart] using hc
      exact isBlank_lt
    | cons d between => exact hargs
  rw [List.append_assoc, hhead.startMarker?_append hargs', Option.map_eq_none_iff] at h
  -- the arguments end at the end of the comment at the latest
  obtain ⟨c, lead, hlead⟩ : ∃ c lead, between ++ (comment ++ rest) =
      c :: (lead ++ (commentEnd ++ rest)) := by
    cases between with
    | nil => exact ⟨'<', ['!', '-', '-'] ++ inner, by simp [hcomment, commentStart]⟩
    | cons c between => exact ⟨c, between ++ (commentStart ++ inner), by simp [hcomment]⟩
  rw [hlead, arguments?] at h
  cases hsplit : splitAround? commentEnd (lead ++ (commentEnd ++ rest)) with
  | none => exact splitAround?_of_occurs _ _ _ hsplit
  | some found =>
    rw [hsplit] at h
    simp at h

end Document

end NoteQuery
