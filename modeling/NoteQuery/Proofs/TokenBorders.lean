import NoteQuery.Proofs.TokenRuns

/-!
# Texts cut between tokens

A text that is cut between two of its tokens falls into two texts, and the tokens of each are those
that the whole text has there (`tokenize_slices`). In front of the border the last token may have
looked at the character behind it, to see that it ends there; at the end of the text it ends as
well. Behind the border nothing changes but the places, since the lexer never looks back.

The same holds where a text stops to have tokens: what stands in front of the error has some.
-/

namespace NoteQuery

open Text
open Syntax (textOf textOf_cons)

/-- The token in a text without the first bytes. -/
def Token.back (bytes : Nat) (t : Token) : Token := { t with start := t.start - bytes }

namespace Lexer

variable {p q r : Position} {t : Token} {ts : List Token} {bytes : Nat}

/-! ## Moved texts -/

theorem Step.back (h : Step p t q) (hle : bytes ≤ p.offset) :
    Step ⟨p.offset - bytes, p.rest⟩ (t.back bytes) ⟨q.offset - bytes, q.rest⟩ := by
  have hstop : q.offset - bytes = p.offset - bytes + byteSize t.text.toList := by
    rw [h.offset_eq]
    omega
  rw [hstop, byteSize_toList]
  obtain ⟨h⟩ := h
  exact .cut h

theorem Run.back (h : Run p ts q) (hle : bytes ≤ p.offset) :
    Run ⟨p.offset - bytes, p.rest⟩ (ts.map (Token.back bytes)) ⟨q.offset - bytes, q.rest⟩ := by
  induction h with
  | done p => exact .done _
  | step hstep _ ih =>
    have hlater := hstep.offset_eq
    exact .step (hstep.back hle) (ih (by omega))

/-! ## Texts of runs -/

theorem tokenize_of_run {source : String} {front : List Token} {stop : Nat}
    (h : Run ⟨0, source.toList⟩ front ⟨stop, []⟩) :
    tokenize source = .ok (front ++ [⟨.endOfText, "", stop⟩]) := by
  have hrun := h.tokensFrom_eq
  rw [(Halts.finished stop).tokensFrom_eq] at hrun
  exact hrun

/-- The tokens of a run are the tokens of the text that they spell. -/
theorem Run.tokenize_textOf {cs : List Char} {front : List Token} (h : Run ⟨0, cs⟩ front q) :
    tokenize (String.ofList (textOf front)) = .ok (front ++ [⟨.endOfText, "", q.offset⟩]) := by
  have hends : ∀ last ∈ front.getLast?, ∀ d ∈ ([] : List Char).head?,
      last.kind.EndsBefore last.text.toList d := fun _ _ => nofun
  have hcut := h.exchange hends
  rw [List.append_nil] at hcut
  apply tokenize_of_run
  rwa [String.toList_ofList]

/-- Where a run ends there is a place in the text, between what the tokens spell and what is
left. -/
theorem Run.exists_border {source : String} {front : List Token}
    (h : Run ⟨0, source.toList⟩ front q) :
    ∃ border : source.Pos, border.offset.byteIdx = q.offset ∧
      (source.sliceTo border).copy = String.ofList (textOf front) ∧
      (source.sliceFrom border).copy = String.ofList q.rest := by
  have htext : source.toList = textOf front ++ q.rest := h.rest_eq
  have happend : source = String.ofList (textOf front) ++ String.ofList q.rest := by
    rw [← String.ofList_append, ← htext, String.ofList_toList]
  have hvalid : (String.ofList (textOf front)).rawEndPos.IsValid source :=
    String.Pos.Raw.isValid_iff_exists_append.2 ⟨_, _, happend, rfl⟩
  have hsplits :
      String.Pos.Splits ⟨_, hvalid⟩ (String.ofList (textOf front)) (String.ofList q.rest) :=
    ⟨happend, rfl⟩
  refine ⟨⟨_, hvalid⟩, ?_, (String.Pos.splits _).eq_left hsplits,
    (String.Pos.splits _).eq_right hsplits⟩
  rw [h.offset_eq, Nat.zero_add, ← utf8ByteSize_ofList]
  rfl

/-- A token alone is read as this token. -/
theorem Step.tokenize_text (h : Step p t q) :
    tokenize t.text = .ok [{ t with start := 0 }, ⟨.endOfText, "", t.text.utf8ByteSize⟩] := by
  have hends : ∀ d ∈ ([] : List Char).head?, t.kind.EndsBefore t.text.toList d := nofun
  have hcut := h.exchange hends 0
  rw [List.append_nil, Nat.zero_add, byteSize_toList] at hcut
  exact tokenize_of_run (.step hcut (.done _))

end Lexer

open Lexer

/-- A text cut in front of one of its tokens falls into a text with the tokens in front, and a text
with the others, which have moved to its start. So each token is the only one of its own text. If a
text has no tokens, the error is that of the text behind its place, and the text in front has
tokens. -/
theorem tokenize_slices (source : String) :
    (∀ before t after, tokenize source = .ok (before ++ t :: after) →
      ∃ border : source.Pos, border.offset.byteIdx = t.start ∧
        tokenize (source.sliceTo border).copy = .ok (before ++ [⟨.endOfText, "", t.start⟩]) ∧
        tokenize (source.sliceFrom border).copy = .ok ((t :: after).map (Token.back t.start))) ∧
    (∀ tokens, tokenize source = .ok tokens → ∀ t ∈ tokens, t.kind ≠ .endOfText →
      tokenize t.text = .ok [{ t with start := 0 }, ⟨.endOfText, "", t.text.utf8ByteSize⟩]) ∧
    (∀ e, tokenize source = .error e → ∃ (cause : LexicalError) (border : source.Pos),
      e = .lexical cause border.offset.byteIdx ∧
        (∃ tokens, tokenize (source.sliceTo border).copy = .ok tokens) ∧
        tokenize (source.sliceFrom border).copy = .error (.lexical cause 0)) := by
  refine ⟨fun before t after h => ?_, fun tokens h t ht hkind => ?_, fun e h => ?_⟩
  · obtain ⟨q, more, stop, hbefore, hmore, hstart, hafter⟩ := exists_runs_of_tokensFrom h
    obtain ⟨border, hborder, hfront, hrest⟩ := hbefore.exists_border
    refine ⟨border, hborder.trans hstart, ?_, ?_⟩
    · rw [hfront, ← hstart]
      exact hbefore.tokenize_textOf
    · have hback := hmore.back (Nat.le_of_eq hstart.symm)
      rw [hstart, Nat.sub_self] at hback
      rw [hrest, hafter, List.map_append]
      apply tokenize_of_run
      rwa [String.toList_ofList]
  · obtain ⟨front, stop, rfl, hrun⟩ := exists_run_of_tokensFrom h
    rcases List.mem_append.1 ht with ht | ht
    · obtain ⟨_, _, hstep⟩ := hrun.exists_of_mem ht
      exact hstep.tokenize_text
    · obtain rfl := List.mem_singleton.1 ht
      exact absurd rfl hkind
  · obtain ⟨front, last, hrun, hhalts⟩ := exists_run_of_tokensFrom_error h
    obtain ⟨border, hborder, hfront, hrest⟩ := hrun.exists_border
    cases hhalts with
    | @refused offset c cs cause hscan =>
      refine ⟨cause, border, by rw [hborder], ⟨_, by rw [hfront]; exact hrun.tokenize_textOf⟩, ?_⟩
      have hrefused : Halts ⟨0, c :: cs⟩ _ := .refused hscan
      rw [hrest, tokenize, String.toList_ofList]
      exact hrefused.tokensFrom_eq

/-- A border between two numbers, the second of which looks like the end of a longer one, and a
number with a point that no digit follows. -/
theorem tokenize_slices_numbers :
    let source := "n!=1.5-2"
    let before : List Token := [⟨.identifier, "n", 0⟩, ⟨.operator, "!=", 1⟩, ⟨.number, "1.5", 3⟩]
    let t : Token := ⟨.number, "-2", 6⟩
    let after : List Token := [⟨.endOfText, "", 8⟩]
    let pointed := "[1."
    let e : ParseError := .lexical (.unexpected '.') 2
    (tokenize source = .ok (before ++ t :: after) ∧
      (∃ border : source.Pos, border.offset.byteIdx = 6 ∧
        tokenize (source.sliceTo border).copy = .ok (before ++ [⟨.endOfText, "", 6⟩]) ∧
        tokenize (source.sliceFrom border).copy = .ok [⟨.number, "-2", 0⟩, ⟨.endOfText, "", 2⟩]) ∧
      t.kind ≠ .endOfText ∧ tokenize t.text = .ok [⟨.number, "-2", 0⟩, ⟨.endOfText, "", 2⟩]) ∧
    tokenize pointed = .error e ∧
      ∃ (cause : LexicalError) (border : pointed.Pos), e = .lexical cause border.offset.byteIdx ∧
        (∃ tokens, tokenize (pointed.sliceTo border).copy = .ok tokens) ∧
        tokenize (pointed.sliceFrom border).copy = .error (.lexical cause 0) := by
  intro source before t after pointed e
  have htokens : tokenize source = .ok (before ++ t :: after) := by decide +kernel
  have herror : tokenize pointed = .error e := by decide +kernel
  obtain ⟨hborder, hsingle, -⟩ := tokenize_slices source
  obtain ⟨-, -, hfailed⟩ := tokenize_slices pointed
  exact ⟨⟨htokens, hborder before t after htokens, nofun, hsingle _ htokens t (by decide) nofun⟩,
    herror, hfailed e herror⟩

end NoteQuery
