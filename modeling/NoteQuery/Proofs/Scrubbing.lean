import NoteQuery.Document.Scrub
import NoteQuery.Proofs.Placement

/-!
# Scrubbing byte by byte

Scrubbing writes a space over every byte of a directive and leaves every other byte where it is
(`scrubText_bytes`). A directive begins and ends between characters, so the bytes that are left are
again those of a text.
-/

namespace NoteQuery

open Text Document

/-! ## Bytes of texts -/

namespace Text

/-- A text in UTF-8. -/
def bytes (cs : List Char) : List UInt8 := cs.flatMap String.utf8EncodeChar

theorem bytes_append (cs ds : List Char) : bytes (cs ++ ds) = bytes cs ++ bytes ds :=
  List.flatMap_append

@[simp] theorem length_bytes (cs : List Char) : (bytes cs).length = byteSize cs := by
  induction cs with
  | nil => rfl
  | cons c cs ih =>
    rw [byteSize_cons, ← ih, bytes, List.flatMap_cons, List.length_append,
      String.length_utf8EncodeChar]
    rfl

theorem bytes_blanked (cs : List Char) :
    bytes (blanked cs) = List.replicate (byteSize cs) 0x20 := by
  unfold blanked
  induction byteSize cs with
  | zero => rfl
  | succ n ih =>
    rw [List.replicate_succ, List.replicate_succ, ← ih]
    rfl

theorem byteSize_blanked (cs : List Char) : byteSize (blanked cs) = byteSize cs := by
  rw [← length_bytes, bytes_blanked, List.length_replicate]

/-- The bytes of a text begin with those of its front. -/
theorem getElem?_bytes_append (cs ds : List Char) (i : Nat) :
    (bytes (cs ++ ds))[i]? =
      if i < byteSize cs then (bytes cs)[i]? else (bytes ds)[i - byteSize cs]? := by
  rw [bytes_append, List.getElem?_append, length_bytes]

theorem getElem?_toUTF8 (text : String) (i : Nat) : text.toUTF8[i]? = (bytes text.toList)[i]? := by
  have htext : text.toUTF8 = (bytes text.toList).toByteArray := by
    rw [String.toUTF8_eq_toByteArray]
    nth_rewrite 1 [← String.ofList_toList (s := text)]
    exact String.toByteArray_ofList
  have hdata : (bytes text.toList).toByteArray.data = (bytes text.toList).toArray :=
    List.data_toByteArray
  rw [htext, ← List.getElem?_toArray, ← hdata]
  rfl

end Text

/-! ## Scrubbed documents -/

/-- A byte of a text belongs to a directive. -/
def PlacedDirective.Covers (d : PlacedDirective) (i : Nat) : Prop :=
  d.span.start ≤ i ∧ i < d.span.stop

instance (d : PlacedDirective) (i : Nat) : Decidable (d.Covers i) :=
  inferInstanceAs (Decidable (_ ∧ _))

namespace Document

/-- The text that scrubbing leaves of a document. -/
def scrubbed (document : Document) : List Char := toList (document.map Piece.scrubbed)

@[simp] theorem scrubbed_nil : scrubbed [] = [] := rfl

@[simp] theorem scrubbed_text (cs : List Char) (document : Document) :
    scrubbed (.text cs :: document) = cs ++ scrubbed document := rfl

@[simp] theorem scrubbed_directive (d : Directive) (document : Document) :
    scrubbed (.directive d :: document) = blanked d.toList ++ scrubbed document := rfl

theorem toList_scrubText (text : String) : (scrubText text).toList = scrubbed (ofText text) :=
  String.toList_ofList

/-- No directive covers a byte in front of a document. -/
theorem not_covers_of_lt {offset i : Nat} {document : Document} (h : i < offset) :
    ¬ ∃ d ∈ placedFrom offset document, d.Covers i := by
  rintro ⟨d, hd, hstart, -⟩
  have hle := offset_le_of_mem_placedFrom hd
  have hoffset : d.span.start = d.offset := rfl
  omega

/-- The bytes of a scrubbed document that starts at a byte offset. -/
theorem getElem?_bytes_scrubbed (offset i : Nat) (document : Document) :
    (bytes document.scrubbed)[i]? =
      if ∃ d ∈ placedFrom offset document, d.Covers (offset + i) then some 0x20
      else (bytes document.toList)[i]? := by
  induction document generalizing offset i with
  | nil => simp [placedFrom, toList]
  | cons piece document ih =>
    cases piece with
    | text cs =>
      rw [scrubbed_text, toList_cons, Piece.toList, getElem?_bytes_append, getElem?_bytes_append,
        placedFrom]
      by_cases hi : i < byteSize cs
      · rw [if_pos hi, if_pos hi, if_neg (not_covers_of_lt (by omega))]
      · have hoffset : offset + byteSize cs + (i - byteSize cs) = offset + i := by omega
        rw [if_neg hi, if_neg hi, ih (offset + byteSize cs), hoffset]
    | directive d =>
      have hspan : PlacedDirective.Covers ⟨d, offset⟩ (offset + i) ↔ i < byteSize d.toList := by
        rw [PlacedDirective.Covers, PlacedDirective.span_stop]
        show offset ≤ offset + i ∧ offset + i < offset + byteSize d.toList ↔ _
        omega
      rw [scrubbed_directive, toList_cons, Piece.toList, getElem?_bytes_append,
        getElem?_bytes_append, placedFrom, byteSize_blanked]
      by_cases hi : i < byteSize d.toList
      · have hcovers : ∃ e ∈ ⟨d, offset⟩ :: placedFrom (offset + byteSize d.toList) document,
            e.Covers (offset + i) := ⟨_, List.mem_cons_self .., hspan.2 hi⟩
        rw [if_pos hi, if_pos hcovers, bytes_blanked, List.getElem?_replicate, if_pos hi]
      · -- the directive ends in front of the byte, so another one covers it or none does
        have hcovers : (∃ e ∈ ⟨d, offset⟩ :: placedFrom (offset + byteSize d.toList) document,
            e.Covers (offset + i)) ↔
            ∃ e ∈ placedFrom (offset + byteSize d.toList) document, e.Covers (offset + i) := by
          rw [List.exists_mem_cons_iff, hspan]
          simp [hi]
        have hoffset : offset + byteSize d.toList + (i - byteSize d.toList) = offset + i := by omega
        rw [if_neg hi, if_neg hi, ih (offset + byteSize d.toList), hoffset]
        simp only [hcovers]

theorem byteSize_scrubbed (document : Document) :
    byteSize document.scrubbed = byteSize document.toList := by
  induction document with
  | nil => rfl
  | cons piece document ih =>
    cases piece with
    | text cs => rw [scrubbed_text, toList_cons, byteSize_append, byteSize_append, ih, Piece.toList]
    | directive d =>
      rw [scrubbed_directive, toList_cons, byteSize_append, byteSize_append, ih, byteSize_blanked,
        Piece.toList]

/-- A scrubbed text has the bytes of the text, with a space in the place of each byte of a
directive. -/
theorem scrubText_bytes (text : String) :
    (scrubText text).toUTF8.IsValidUTF8 ∧ (scrubText text).utf8ByteSize = text.utf8ByteSize ∧
      ∀ i, (scrubText text).toUTF8[i]? =
        if ∃ d ∈ (ofText text).placed, d.Covers i then some 0x20 else text.toUTF8[i]? := by
  have htoList : (ofText text).toList = text.toList := toList_ofList text.toList
  refine ⟨(scrubText text).isValidUTF8, ?_, fun i => ?_⟩
  · rw [← byteSize_toList, ← byteSize_toList, toList_scrubText, byteSize_scrubbed, htoList]
  · have hbytes := getElem?_bytes_scrubbed 0 i (ofText text)
    rw [Nat.zero_add] at hbytes
    rw [getElem?_toUTF8, getElem?_toUTF8, toList_scrubText, hbytes, htoList]
    rfl

end Document

end NoteQuery
