import NoteQuery.Text.Basic
import NoteQuery.Unicode.Class

/-! # Markers

A directive stands between two comments: a start marker `<!-- #name arguments -->` and an end marker
`<!-- /name -->`. The functions here read a marker at the front of a text. White space may stand
behind `<!--` and around the name; arguments reach up to the first `-->` behind their first
character.
-/

namespace NoteQuery.Document

open NoteQuery.Text NoteQuery.Unicode

/-- Opens a comment. -/
def commentStart : List Char := ['<', '!', '-', '-']

/-- Closes a comment. -/
def commentEnd : List Char := ['-', '-', '>']

/-- Characters of a directive's name. -/
def isNameChar (c : Char) : Bool := isWord c || c == '-'

/-- What follows the start of a comment, white space, and a sign. -/
def afterSign? (sign : Char) (cs : List Char) : Option (List Char) := do
  let inner ← after? commentStart cs
  after? [sign] (inner.dropWhile isBlank)

/-! ## Start markers -/

/-- A start marker at the front of a text. -/
structure StartMarker where
  name : List Char
  /-- What stands between the name and the end of the comment, without the white space in front. -/
  args : List Char
  /-- What follows the marker. -/
  rest : List Char
deriving DecidableEq, Repr

/-- Arguments and what follows the comment, from the first character behind white space on. At least
one character belongs to the arguments even if the comment ends there; if it ends nowhere else, this
character is the last blank, provided that the name has another one behind it. -/
def arguments? (blanks cs : List Char) : Option (List Char × List Char) :=
  match cs with
  | [] => none
  | c :: others =>
    match splitAround? commentEnd others with
    | some (args, rest) => some (c :: args, rest)
    | none =>
      if 2 ≤ blanks.length then
        (after? commentEnd cs).map (fun rest => (blanks.drop (blanks.length - 1), rest))
      else none

/-- The start marker at the front of a text, if there is one. -/
def startMarker? (cs : List Char) : Option StartMarker := do
  let named ← afterSign? '#' cs
  let name := named.takeWhile isNameChar
  let spaced := named.dropWhile isNameChar
  let blanks := spaced.takeWhile isBlank
  if name.isEmpty || blanks.isEmpty then none
  else
    let (args, rest) ← arguments? blanks (spaced.dropWhile isBlank)
    return { name, args, rest }

/-! ## End markers -/

/-- An end marker at the front of a text. -/
structure EndMarker where
  name : List Char
  /-- What follows the marker. -/
  rest : List Char
deriving DecidableEq, Repr

/-- The end marker whose comment has been read up to `run`, the longest run of name characters, with
what follows. Hyphens can be part of a name; if the comment ends right behind the run, its last two
hyphens are those of the comment. -/
def closingComment? (run : List Char) : List Char → Option EndMarker
  | [] => none
  | c :: others =>
    if c = '>' then
      let name := run.take (run.length - 2)
      if name ≠ [] ∧ run = name ++ ['-', '-'] then some { name, rest := others } else none
    else if run.isEmpty then none
    else
      (after? commentEnd ((c :: others).dropWhile isBlank)).map (fun rest => { name := run, rest })

/-- The end marker at the front of a text, if there is one. -/
def endMarker? (cs : List Char) : Option EndMarker := do
  let named ← afterSign? '/' cs
  closingComment? (named.takeWhile isNameChar) (named.dropWhile isNameChar)

/-! ## What follows a marker

What follows a marker is a proper end of the text. -/

private theorem suffix_of_after? {lead cs rest : List Char} (h : after? lead cs = some rest) :
    rest <:+ cs ∧ cs.length = lead.length + rest.length := by
  have h := eq_append_of_after? h
  exact ⟨⟨lead, h.symm⟩, by rw [h, List.length_append]⟩

private theorem suffix_of_afterSign? {sign : Char} {cs rest : List Char}
    (h : afterSign? sign cs = some rest) : rest <:+ cs ∧ rest.length < cs.length := by
  simp only [afterSign?, Option.bind_eq_bind, Option.bind_eq_some_iff] at h
  obtain ⟨inner, h₁, h₂⟩ := h
  have ⟨h₁, hl⟩ := suffix_of_after? h₁
  have ⟨h₂, _⟩ := suffix_of_after? h₂
  have hi := h₂.trans (List.dropWhile_suffix isBlank)
  refine ⟨hi.trans h₁, ?_⟩
  have := hi.length_le
  simp only [commentStart, List.length_cons, List.length_nil] at hl
  omega

private theorem suffix_of_arguments? {blanks cs args rest : List Char}
    (h : arguments? blanks cs = some (args, rest)) : rest <:+ cs := by
  unfold arguments? at h
  split at h
  · simp at h
  · rename_i c others
    split at h
    · rename_i before behind hs
      have hs := eq_append_of_splitAround? hs
      simp only [Option.some.injEq, Prod.mk.injEq] at h
      obtain ⟨-, rfl⟩ := h
      exact ⟨c :: (before ++ commentEnd), by simp [hs]⟩
    · split at h
      · obtain ⟨r, hr, he⟩ := Option.map_eq_some_iff.1 h
        simp only [Prod.mk.injEq] at he
        obtain ⟨-, rfl⟩ := he
        exact (suffix_of_after? hr).1
      · simp at h

theorem suffix_of_startMarker? {cs : List Char} {m : StartMarker} (h : startMarker? cs = some m) :
    m.rest <:+ cs ∧ m.rest.length < cs.length := by
  simp only [startMarker?, Option.bind_eq_bind, Option.bind_eq_some_iff] at h
  obtain ⟨named, hn, h⟩ := h
  have ⟨hn, hlt⟩ := suffix_of_afterSign? hn
  split at h
  · simp at h
  · obtain ⟨⟨args, rest⟩, ha, he⟩ := Option.bind_eq_some_iff.1 h
    simp only [Option.pure_def, Option.some.injEq] at he
    subst he
    have hr : rest <:+ named :=
      ((suffix_of_arguments? ha).trans (List.dropWhile_suffix _)).trans (List.dropWhile_suffix _)
    exact ⟨hr.trans hn, Nat.lt_of_le_of_lt hr.length_le hlt⟩

private theorem suffix_of_closingComment? {run cs : List Char} {m : EndMarker}
    (h : closingComment? run cs = some m) : m.rest <:+ cs := by
  unfold closingComment? at h
  split at h
  · simp at h
  · rename_i c others
    split at h
    · dsimp only at h
      split at h
      · obtain rfl := Option.some.inj h
        exact List.suffix_cons c others
      · simp at h
    · split at h
      · simp at h
      · obtain ⟨rest, hr, rfl⟩ := Option.map_eq_some_iff.1 h
        exact (suffix_of_after? hr).1.trans (List.dropWhile_suffix _)

theorem suffix_of_endMarker? {cs : List Char} {m : EndMarker} (h : endMarker? cs = some m) :
    m.rest <:+ cs ∧ m.rest.length < cs.length := by
  simp only [endMarker?, Option.bind_eq_bind, Option.bind_eq_some_iff] at h
  obtain ⟨named, hn, h⟩ := h
  have ⟨hn, hlt⟩ := suffix_of_afterSign? hn
  have hr := (suffix_of_closingComment? h).trans (List.dropWhile_suffix _)
  exact ⟨hr.trans hn, Nat.lt_of_le_of_lt hr.length_le hlt⟩

end NoteQuery.Document
