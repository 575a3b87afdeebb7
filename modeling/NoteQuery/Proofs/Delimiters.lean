import NoteQuery.Proofs.Meaning
import NoteQuery.Proofs.Slices

/-!
# Literals without their delimiters

A delimited literal is cut at two byte offsets, one counted from the front of its text and one from
the back. Both are offsets of characters, and they are in order exactly if the delimiters on the two
sides do not overlap (`strippedRange?_eq`). So what is cut out is the body between the delimiters,
whatever characters these are (`strippedText_exact`).
-/

namespace NoteQuery

open Text

/-! ## Bodies -/

namespace Syntax

variable {text body : String} {width : Nat}

theorem inside_append (front body behind : List Char) (hfront : front.length = width)
    (hbehind : behind.length = width) :
    inside width (String.ofList (front ++ (body ++ behind))) = String.ofList body := by
  have hlength : (front ++ (body ++ behind)).length - 2 * width = body.length := by
    rw [List.length_append, List.length_append]
    omega
  rw [inside, String.toList_ofList, hlength, List.drop_left' hfront, List.take_left]

/-- A text is a body with `width` characters in front of it and as many behind it. -/
def Encloses (width : Nat) (text body : String) : Prop :=
  ∃ front behind : List Char, front.length = width ∧ behind.length = width ∧
    text = String.ofList front ++ body ++ String.ofList behind

theorem encloses_iff :
    Encloses width text body ↔ 2 * width ≤ text.length ∧ inside width text = body := by
  constructor
  · rintro ⟨front, behind, hfront, hbehind, rfl⟩
    have hlist : String.ofList front ++ body ++ String.ofList behind =
        String.ofList (front ++ (body.toList ++ behind)) := by
      rw [String.ofList_append, String.ofList_append, String.ofList_toList, String.append_assoc]
    refine ⟨?_, ?_⟩
    · rw [String.length_append, String.length_append, String.length_ofList, String.length_ofList]
      omega
    · rw [hlist, inside_append front body.toList behind hfront hbehind, String.ofList_toList]
  · rintro ⟨hwidth, rfl⟩
    have hlength : text.toList.length = text.length := String.length_toList
    refine ⟨text.toList.take width, text.toList.drop (text.length - width), ?_, ?_, ?_⟩
    · rw [List.length_take]
      omega
    · rw [List.length_drop]
      omega
    · have hbody : text.toList.length - 2 * width = text.length - width - width := by omega
      rw [inside, hbody, ← String.ofList_append, ← String.ofList_append,
        ← take_eq_append (by omega), List.take_append_drop, String.ofList_toList]

theorem encloses_one_iff :
    Encloses 1 text body ↔ ∃ c₁ c₂, text = String.ofList [c₁] ++ body ++ String.ofList [c₂] := by
  constructor
  · rintro ⟨front, behind, hfront, hbehind, rfl⟩
    obtain ⟨c₁, rfl⟩ := List.length_eq_one_iff.1 hfront
    obtain ⟨c₂, rfl⟩ := List.length_eq_one_iff.1 hbehind
    exact ⟨c₁, c₂, rfl⟩
  · rintro ⟨c₁, c₂, htext⟩
    exact ⟨[c₁], [c₂], rfl, rfl, htext⟩

theorem encloses_two_iff :
    Encloses 2 text body ↔
      ∃ c₁ c₂ c₃ c₄, text = String.ofList [c₁, c₂] ++ body ++ String.ofList [c₃, c₄] := by
  constructor
  · rintro ⟨front, behind, hfront, hbehind, rfl⟩
    obtain ⟨c₁, c₂, rfl⟩ := List.length_eq_two.1 hfront
    obtain ⟨c₃, c₄, rfl⟩ := List.length_eq_two.1 hbehind
    exact ⟨c₁, c₂, c₃, c₄, rfl⟩
  · rintro ⟨c₁, c₂, c₃, c₄, htext⟩
    exact ⟨[c₁, c₂], [c₃, c₄], rfl, rfl, htext⟩

end Syntax

namespace Tree

open Syntax

/-! ## Stripping -/

section

variable {node : Tree} {text : String} {width : Nat}

/-- The two offsets are those of characters, and they are in order exactly if the text has enough
characters for both sides. -/
theorem strippedRange?_eq (text : String) (hwidth : 1 ≤ width) :
    strippedRange? text width =
      if 2 * width ≤ text.length then
        some (byteSize (text.toList.take width), byteSize (text.toList.take (text.length - width)))
      else none := by
  have hlength : text.toList.length = text.length := String.length_toList
  unfold strippedRange?
  dsimp only
  rcases Nat.lt_or_ge width text.length with hlt | hge
  · have hback : text.toList.length - 1 - (width - 1) = text.length - width := by omega
    rw [getElem?_charOffsets 0 (by omega), getElem?_reverse_charOffsets 0 (by omega), hback,
      Nat.zero_add, Nat.zero_add]
    dsimp only
    -- the offsets cross exactly if the characters do
    have hcross : width ≤ text.length - width ↔ 2 * width ≤ text.length := by omega
    simp only [byteSize_take_le_iff (by omega : width ≤ text.toList.length), hcross]
  · rw [getElem?_charOffsets_eq_none 0 (by omega), if_neg (by omega)]

/-- What is cut out between the two offsets stands inside. -/
theorem isSlice_inside (hle : 2 * width ≤ text.length) :
    IsSlice text.toList
      ⟨byteSize (text.toList.take width), byteSize (text.toList.take (text.length - width))⟩
      (inside width text).toList := by
  have hlength : text.toList.length = text.length := String.length_toList
  have hbody : text.toList.length - 2 * width = text.length - width - width := by omega
  rw [inside, String.toList_ofList, hbody]
  exact isSlice_between (by omega)

theorem strippedText_eq (htext : node.leafText = .ok text) (hwidth : 1 ≤ width) :
    node.strippedText width =
      if 2 * width ≤ text.length then .ok (inside width text)
      else .error (.malformedLiteral text node.describe) := by
  rw [strippedText, htext, ok_bind, strippedRange?_eq text hwidth]
  split_ifs with hle
  · dsimp only
    rw [(isSlice_inside hle).extract_eq, String.ofList_toList]
    rfl
  · rfl

/-- What comes of a node's leaf text without `width` characters at each end. -/
structure StripsExactly (node : Tree) (text : String) (width : Nat) : Prop where
  /-- There is a result exactly if the text has enough characters for both sides. -/
  succeeds_iff : (∃ body, node.strippedText width = .ok body) ↔ 2 * width ≤ text.length
  ok_iff : ∀ body, node.strippedText width = .ok body ↔ Encloses width text body
  fails : text.length < 2 * width →
    node.strippedText width = .error (.malformedLiteral text node.describe)
  /-- The offsets at which a text is cut are places between its characters, in order. -/
  cuts : ∀ start stop, strippedRange? text width = some (start, stop) →
    ∃ (first last : text.Pos) (hle : first ≤ last),
      first.offset.byteIdx = start ∧ last.offset.byteIdx = stop ∧
        node.strippedText width = .ok (text.slice first last hle).copy

theorem stripsExactly (htext : node.leafText = .ok text) (hwidth : 1 ≤ width) :
    node.StripsExactly text width where
  succeeds_iff := by
    rw [strippedText_eq htext hwidth]
    split_ifs with hle
    · exact ⟨fun _ => hle, fun _ => ⟨_, rfl⟩⟩
    · exact ⟨nofun, fun h => absurd h hle⟩
  ok_iff body := by
    rw [strippedText_eq htext hwidth, encloses_iff]
    split_ifs with hle
    · rw [Except.ok.injEq, and_iff_right hle]
    · exact ⟨nofun, fun h => absurd h.1 hle⟩
  fails hlt := by
    rw [strippedText_eq htext hwidth, if_neg (by omega)]
  cuts start stop hrange := by
    rw [strippedRange?_eq text hwidth] at hrange
    split_ifs at hrange with hle
    obtain ⟨rfl, rfl⟩ := Prod.mk.inj (Option.some.inj hrange)
    obtain ⟨first, last, horder, hfirst, hlast, hcopy⟩ := (isSlice_inside hle).exists_slice
    refine ⟨first, last, horder, hfirst, hlast, ?_⟩
    rw [strippedText_eq htext hwidth, if_pos hle, hcopy, String.ofList_toList]

end

/-! ## Delimited literals -/

section

variable {node : Tree}

theorem literal_of_quoted (htag : node.hasTag Tag.string ∨ node.hasTag Tag.regex) :
    literal node = (node.strippedText 1).map .string := by
  obtain ⟨⟨tag, text, start, stop⟩, children⟩ := node
  rcases htag with htag | htag
  · obtain rfl : tag = some Tag.string := beq_iff_eq.1 htag
    rw [literal]
    show (strippedText _ 1 >>= _) = _
    cases strippedText _ 1 <;> rfl
  · obtain rfl : tag = some Tag.regex := beq_iff_eq.1 htag
    rw [literal]
    show (strippedText _ 1 >>= _) = _
    cases strippedText _ 1 <;> rfl

theorem literal_of_hasTag_pageRef (htag : node.hasTag Tag.pageRef) :
    literal node = (node.strippedText 2).map .pageRef := by
  obtain ⟨⟨tag, text, start, stop⟩, children⟩ := node
  obtain rfl : tag = some Tag.pageRef := beq_iff_eq.1 htag
  rw [literal]
  show (strippedText _ 2 >>= _) = _
  cases strippedText _ 2 <;> rfl

theorem map_strippedText_eq_ok_iff {text : String} {width : Nat} (htext : node.leafText = .ok text)
    (hwidth : 1 ≤ width) (toValue : String → Value) (value : Value) :
    (node.strippedText width).map toValue = .ok value ↔
      ∃ body, Encloses width text body ∧ value = toValue body := by
  constructor
  · intro h
    obtain ⟨body, hbody, rfl⟩ := exists_of_map h
    exact ⟨body, ((stripsExactly htext hwidth).ok_iff body).1 hbody, rfl⟩
  · rintro ⟨body, hbody, rfl⟩
    rw [((stripsExactly htext hwidth).ok_iff body).2 hbody]
    rfl

end

/-- Stripping `width` characters at each end gives what stands between them, or an error if the text
is too short for both sides, and a text is never cut but between two characters. So the value of a
string or a pattern is what stands between its first and its last character, whatever these are, and
that of a page reference what stands between the first two and the last two. -/
theorem strippedText_exact {node : Tree} {text : String} (htext : node.leafText = .ok text) :
    (∀ width, 1 ≤ width → node.StripsExactly text width) ∧
    (node.hasTag Tag.string ∨ node.hasTag Tag.regex → ∀ value, literal node = .ok value ↔
      ∃ c₁ body c₂, text = String.ofList [c₁] ++ body ++ String.ofList [c₂] ∧
        value = .string body) ∧
    (node.hasTag Tag.pageRef → ∀ value, literal node = .ok value ↔
      ∃ c₁ c₂ body c₃ c₄, text = String.ofList [c₁, c₂] ++ body ++ String.ofList [c₃, c₄] ∧
        value = .pageRef body) := by
  refine ⟨fun width hwidth => stripsExactly htext hwidth, fun htag value => ?_,
    fun htag value => ?_⟩
  · rw [literal_of_quoted htag, map_strippedText_eq_ok_iff htext (Nat.le_refl 1)]
    constructor
    · rintro ⟨body, hbody, hvalue⟩
      obtain ⟨c₁, c₂, hc⟩ := encloses_one_iff.1 hbody
      exact ⟨c₁, body, c₂, hc, hvalue⟩
    · rintro ⟨c₁, body, c₂, hc, hvalue⟩
      exact ⟨body, encloses_one_iff.2 ⟨c₁, c₂, hc⟩, hvalue⟩
  · rw [literal_of_hasTag_pageRef htag, map_strippedText_eq_ok_iff htext (Nat.le_succ 1)]
    constructor
    · rintro ⟨body, hbody, hvalue⟩
      obtain ⟨c₁, c₂, c₃, c₄, hc⟩ := encloses_two_iff.1 hbody
      exact ⟨c₁, c₂, body, c₃, c₄, hc, hvalue⟩
    · rintro ⟨c₁, c₂, body, c₃, c₄, hc, hvalue⟩
      exact ⟨body, encloses_two_iff.2 ⟨c₁, c₂, c₃, c₄, hc⟩, hvalue⟩

/-- Delimiters of several bytes. The first text has no two characters for each side. -/
theorem strippedText_exact_wideDelimiters :
    let quoted : Tree := ⟨{ tag := some Tag.string }, [.leaf "“é”" 0 8]⟩
    let bracketed : Tree := ⟨{ tag := some Tag.pageRef }, [.leaf "⟦⟦🙂⟧⟧" 8 24]⟩
    (quoted.leafText = .ok "“é”" ∧ quoted.hasTag Tag.string = true ∧
      quoted.strippedText 1 = .ok "é" ∧
      quoted.strippedText 2 = .error (.malformedLiteral "“é”" "String") ∧
      literal quoted = .ok (.string "é")) ∧
    bracketed.leafText = .ok "⟦⟦🙂⟧⟧" ∧ bracketed.hasTag Tag.pageRef = true ∧
      literal bracketed = .ok (.pageRef "🙂") := by
  intro quoted bracketed
  have hquoted : quoted.leafText = .ok "“é”" := rfl
  have hbracketed : bracketed.leafText = .ok "⟦⟦🙂⟧⟧" := rfl
  obtain ⟨hstrips, hstring, -⟩ := strippedText_exact hquoted
  obtain ⟨-, -, hpage⟩ := strippedText_exact hbracketed
  refine ⟨⟨hquoted, rfl, ?_, ?_, ?_⟩, hbracketed, rfl, ?_⟩
  · exact ((hstrips 1 (by decide)).ok_iff "é").2 ⟨['“'], ['”'], rfl, rfl, by decide⟩
  · exact (hstrips 2 (by decide)).fails (by decide)
  · exact (hstring (.inl rfl) _).2 ⟨'“', "é", '”', by decide, rfl⟩
  · exact (hpage rfl _).2 ⟨'⟦', '⟦', "🙂", '⟧', '⟧', by decide, rfl⟩

end Tree

end NoteQuery
