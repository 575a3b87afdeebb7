import NoteQuery.Document.Place
import Mathlib.Data.List.Basic
import Mathlib.Data.String.Basic

/-!
# Slices of texts

A range of bytes cuts a slice out of a text if it begins and ends between two characters. A slice of
a slice is a slice of the whole text, further on by as many bytes as stand in front of it. The
offset of a character is the size of the front of the text that it ends, so that between two such
offsets in order there is always a slice (`isSlice_between`).
-/

namespace NoteQuery

open Text

namespace Text

@[simp] theorem byteSize_nil : byteSize [] = 0 := rfl

@[simp] theorem byteSize_cons (c : Char) (cs : List Char) :
    byteSize (c :: cs) = c.utf8Size + byteSize cs := rfl

@[simp] theorem byteSize_append (cs ds : List Char) :
    byteSize (cs ++ ds) = byteSize cs + byteSize ds := by
  induction cs with
  | nil => simp
  | cons c cs ih =>
    rw [List.cons_append, byteSize_cons, byteSize_cons, ih]
    omega

theorem byteSize_pos {cs : List Char} (h : cs ≠ []) : 0 < byteSize cs := by
  obtain ⟨c, others, rfl⟩ := List.exists_cons_of_ne_nil h
  have hc := c.utf8Size_pos
  rw [byteSize_cons]
  omega

theorem utf8ByteSize_ofList (cs : List Char) : (String.ofList cs).utf8ByteSize = byteSize cs := by
  induction cs with
  | nil => rfl
  | cons c cs ih =>
    have hcons : String.ofList (c :: cs) = String.singleton c ++ String.ofList cs := by
      rw [String.singleton_eq_ofList, ← String.ofList_append]
      rfl
    rw [hcons, String.utf8ByteSize_append, String.utf8ByteSize_singleton, ih, byteSize_cons]

theorem byteSize_toList (s : String) : byteSize s.toList = s.utf8ByteSize := by
  rw [← utf8ByteSize_ofList, String.ofList_toList]

/-! ## Fronts and offsets of characters -/

section

variable {cs : List Char} {i j : Nat}

theorem take_eq_append (hij : i ≤ j) : cs.take j = cs.take i ++ (cs.drop i).take (j - i) := by
  rw [← List.take_add, Nat.add_sub_cancel' hij]

/-- Of two fronts of a text, the one of fewer characters has fewer bytes. -/
theorem byteSize_take_le_iff (hi : i ≤ cs.length) :
    byteSize (cs.take i) ≤ byteSize (cs.take j) ↔ i ≤ j := by
  constructor
  · intro hle
    by_contra hlt
    have hji : j ≤ i := by omega
    have hbetween : (cs.drop j).take (i - j) ≠ [] := by
      apply List.ne_nil_of_length_pos
      rw [List.length_take, List.length_drop]
      omega
    have hpos := byteSize_pos hbetween
    rw [take_eq_append hji, byteSize_append] at hle
    omega
  · intro hle
    rw [take_eq_append hle, byteSize_append]
    omega

@[simp] theorem length_charOffsets (offset : Nat) (cs : List Char) :
    (charOffsets offset cs).length = cs.length := by
  induction cs generalizing offset with
  | nil => rfl
  | cons c cs ih => rw [charOffsets, List.length_cons, List.length_cons, ih]

/-- A character begins where the characters in front of it end. -/
theorem getElem?_charOffsets (offset : Nat) (hi : i < cs.length) :
    (charOffsets offset cs)[i]? = some (offset + byteSize (cs.take i)) := by
  induction cs generalizing offset i with
  | nil => exact absurd hi (Nat.not_lt_zero i)
  | cons c cs ih =>
    cases i with
    | zero => rfl
    | succ i =>
      rw [charOffsets, List.getElem?_cons_succ, ih _ (Nat.lt_of_succ_lt_succ hi),
        List.take_succ_cons, byteSize_cons, Nat.add_assoc]

theorem getElem?_charOffsets_eq_none (offset : Nat) (hi : cs.length ≤ i) :
    (charOffsets offset cs)[i]? = none := by
  rwa [List.getElem?_eq_none_iff, length_charOffsets]

/-- Counted from the back, the first character is the last one. -/
theorem getElem?_reverse_charOffsets (offset : Nat) (hi : i < cs.length) :
    (charOffsets offset cs).reverse[i]? =
      some (offset + byteSize (cs.take (cs.length - 1 - i))) := by
  rw [List.getElem?_reverse (by rwa [length_charOffsets]), length_charOffsets]
  exact getElem?_charOffsets offset (by omega)

end

end Text

/-! ## Slices -/

/-- A part of a text at a range of bytes. Both ends of the range lie between characters of the
text. -/
def IsSlice (cs : List Char) (range : ByteRange) (part : List Char) : Prop :=
  ∃ before after, cs = before ++ (part ++ after) ∧
    byteSize before = range.start ∧ byteSize (before ++ part) = range.stop

/-- Of two fronts of a text, the one of fewer bytes is the front of the other one. -/
theorem Text.exists_of_byteSize_le {front tail front' tail' : List Char}
    (heq : front ++ tail = front' ++ tail') (hle : byteSize front ≤ byteSize front') :
    ∃ between, front' = front ++ between ∧ tail = between ++ tail' := by
  rcases List.append_eq_append_iff.1 heq with h | ⟨beyond, rfl, rfl⟩
  · exact h
  · rw [byteSize_append] at hle
    have hbeyond : beyond = [] := by
      by_contra hne
      have hpos := byteSize_pos hne
      omega
    subst hbeyond
    exact ⟨[], by simp, by simp⟩

/-- A slice that begins behind the front of a text is a slice of the rest. -/
theorem IsSlice.exists_of_le {front cs part : List Char} {range : ByteRange}
    (h : IsSlice (front ++ cs) range part) (hle : byteSize front ≤ range.start) :
    ∃ between after, cs = between ++ (part ++ after) ∧
      byteSize (front ++ between) = range.start := by
  obtain ⟨before, after, heq, hstart, -⟩ := h
  rw [← hstart] at hle ⊢
  obtain ⟨between, rfl, rfl⟩ := exists_of_byteSize_le heq hle
  exact ⟨between, after, rfl, rfl⟩

/-- What a longer front of a text has behind a shorter one is a slice of the text. -/
theorem isSlice_between {cs : List Char} {i j : Nat} (hij : i ≤ j) :
    IsSlice cs ⟨byteSize (cs.take i), byteSize (cs.take j)⟩ ((cs.drop i).take (j - i)) := by
  refine ⟨cs.take i, cs.drop j, ?_, rfl, ?_⟩
  · rw [← List.append_assoc, ← take_eq_append hij, List.take_append_drop]
  · rw [← take_eq_append hij]

section

variable {text : String} {start stop : Nat} {part : List Char}

/-- What stands between the ends of a slice is the slice. -/
theorem IsSlice.extract_eq (h : IsSlice text.toList ⟨start, stop⟩ part) :
    String.Pos.Raw.extract text ⟨start⟩ ⟨stop⟩ = String.ofList part := by
  obtain ⟨before, after, heq, hstart, hstop⟩ := h
  have hsize (ds : List Char) : String.utf8Len ds = byteSize ds := by
    rw [← String.utf8ByteSize_ofList, utf8ByteSize_ofList]
  have hvalid := String.extract_of_valid before part after
  rw [List.append_assoc, ← heq, String.ofList_toList, hsize, hsize, ← byteSize_append] at hvalid
  rwa [hstart, hstop] at hvalid

/-- The ends of a slice are two places in the text, in order. -/
theorem IsSlice.exists_slice (h : IsSlice text.toList ⟨start, stop⟩ part) :
    ∃ (first last : text.Pos) (hle : first ≤ last),
      first.offset.byteIdx = start ∧ last.offset.byteIdx = stop ∧
        (text.slice first last hle).copy = String.ofList part := by
  obtain ⟨before, after, heq, hstart, hstop⟩ := h
  have hfront : text = String.ofList before ++ (String.ofList part ++ String.ofList after) := by
    rw [← String.ofList_append, ← String.ofList_append, ← heq, String.ofList_toList]
  have hback : text = (String.ofList before ++ String.ofList part) ++ String.ofList after := by
    rwa [String.append_assoc]
  have hfirst := String.Pos.splits_ofEqAppend hfront
  have hlast := String.Pos.splits_ofEqAppend hback
  obtain ⟨hle, hcopy⟩ := String.copy_slice_eq_iff_splits.2 ⟨_, _, hfirst, hlast⟩
  refine ⟨_, _, hle, ?_, ?_, hcopy⟩
  · rw [hfirst.offset_eq_rawEndPos, String.byteIdx_rawEndPos, utf8ByteSize_ofList, hstart]
  · rw [hlast.offset_eq_rawEndPos, String.byteIdx_rawEndPos, ← String.ofList_append,
      utf8ByteSize_ofList, hstop]

end

end NoteQuery
