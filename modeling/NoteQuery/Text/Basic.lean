/-! # Texts as lists of characters

Scanners and tables work on `List Char`. This file holds the few operations that all of them
share: sizes and offsets in UTF-8 bytes, cutting at a character, joining, and numerals in a small
base.
-/

namespace NoteQuery.Text

/-- Size of a text in UTF-8 bytes. -/
def byteSize : List Char → Nat
  | [] => 0
  | c :: cs => c.utf8Size + byteSize cs

/-- Byte offsets at which the characters of a text begin, where the text itself begins at an
offset. -/
def charOffsets (offset : Nat) : List Char → List Nat
  | [] => []
  | c :: cs => offset :: charOffsets (offset + c.utf8Size) cs

/-- Pieces between the characters that satisfy `p`; a text without one is its own only piece. -/
def splitBy (p : Char → Bool) : List Char → List (List Char)
  | [] => [[]]
  | c :: cs =>
    if p c then [] :: splitBy p cs
    else
      match splitBy p cs with
      | [] => [[c]]
      | piece :: pieces => (c :: piece) :: pieces

/-- Nonempty pieces between spaces and line ends. -/
def words (cs : List Char) : List (List Char) :=
  (splitBy (fun c => c == ' ' || c == '\n') cs).filter (fun w => !w.isEmpty)

/-- Pieces joined with a separator between neighbours. -/
def joinWith (sep : String) : List String → String
  | [] => ""
  | [s] => s
  | s :: rest => s ++ sep ++ joinWith sep rest

/-- Whether `part` occurs somewhere in `cs`. -/
def occursIn (part : List Char) : List Char → Bool
  | [] => part.isEmpty
  | c :: cs => part.isPrefixOf (c :: cs) || occursIn part cs

/-- What follows `lead` when the text begins with it. -/
def after? (lead cs : List Char) : Option (List Char) :=
  if lead.isPrefixOf cs then some (cs.drop lead.length) else none

/-- What stands before and behind the first occurrence of `part`. -/
def splitAround? (part : List Char) : List Char → Option (List Char × List Char)
  | [] => if part.isEmpty then some ([], []) else none
  | c :: cs =>
    match after? part (c :: cs) with
    | some rest => some ([], rest)
    | none => (splitAround? part cs).map (fun (before, rest) => (c :: before, rest))

theorem joinWith_cons_cons (sep s t : String) (rest : List String) :
    joinWith sep (s :: t :: rest) = s ++ sep ++ joinWith sep (t :: rest) := rfl

/-- Behind the first piece each piece follows a separator. -/
theorem toList_joinWith (sep s : String) (ss : List String) :
    (joinWith sep (s :: ss)).toList =
      s.toList ++ ss.flatMap (fun t => sep.toList ++ t.toList) := by
  induction ss generalizing s with
  | nil => simp [joinWith]
  | cons t ss ih =>
    rw [joinWith_cons_cons, String.toList_append, String.toList_append, ih, List.flatMap_cons]
    simp only [List.append_assoc]

theorem eq_append_of_after? {lead cs rest : List Char} (h : after? lead cs = some rest) :
    cs = lead ++ rest := by
  unfold after? at h
  split at h
  · rename_i hp
    obtain ⟨t, rfl⟩ := List.isPrefixOf_iff_prefix.1 hp
    simp only [List.drop_left, Option.some.injEq] at h
    rw [h]
  · simp at h

theorem eq_append_of_splitAround? {part cs before rest : List Char}
    (h : splitAround? part cs = some (before, rest)) : cs = before ++ (part ++ rest) := by
  induction cs generalizing before rest with
  | nil =>
    simp only [splitAround?, List.isEmpty_iff] at h
    split at h
    · rename_i hp; subst hp; simp_all
    · simp at h
  | cons c cs ih =>
    simp only [splitAround?] at h
    split at h
    · rename_i r hr
      simp only [Option.some.injEq, Prod.mk.injEq] at h
      obtain ⟨rfl, rfl⟩ := h
      simpa using eq_append_of_after? hr
    · obtain ⟨⟨b, r⟩, hs, he⟩ := Option.map_eq_some_iff.1 h
      simp only [Prod.mk.injEq] at he
      obtain ⟨rfl, rfl⟩ := he
      simp [ih hs]

/-- Value of a hexadecimal digit in either case. -/
def hexDigit? (c : Char) : Option Nat :=
  if '0' ≤ c ∧ c ≤ '9' then some (c.toNat - '0'.toNat)
  else if 'a' ≤ c ∧ c ≤ 'f' then some (c.toNat - 'a'.toNat + 10)
  else if 'A' ≤ c ∧ c ≤ 'F' then some (c.toNat - 'A'.toNat + 10)
  else none

/-- Value of a run of hexadecimal digits; other characters count as nought. -/
def hexValue (cs : List Char) : Nat :=
  cs.foldl (fun n c => n * 16 + (hexDigit? c).getD 0) 0

/-- Value of a decimal digit. -/
def digitValue (c : Char) : Nat :=
  c.toNat - '0'.toNat

/-- Value of a run of decimal digits. -/
def decimalValue (cs : List Char) : Nat :=
  cs.foldl (fun n c => n * 10 + digitValue c) 0

/-- The character with a code point, when there is one. -/
def charOfCode? (n : Nat) : Option Char :=
  if h : n.isValidChar then some (Char.ofNatAux n h) else none

end NoteQuery.Text
