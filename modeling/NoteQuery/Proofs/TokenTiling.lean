import NoteQuery.Proofs.TokenRuns

/-!
# Tokens tile their text

The tokens of a text lie side by side from its start to its end, each of them is the text at its
place, and neither white space nor an identifier is cut in two (`IsTiling`). Cutting ends for every
text, with the tokens or with an error, because each step takes at least one character off the front
(`tokenize_isTiling`).
-/

namespace NoteQuery

open Text Unicode
open Syntax (textOf)

/-- Tokens that fill a text without a gap. -/
structure IsTiling (source : String) (tokens : List Token) : Prop where
  start_eq_zero : ∀ t ∈ tokens.head?, t.start = 0
  /-- Each token starts where the one in front of it ends. -/
  isChain_border : tokens.IsChain (fun t u => t.stop = u.start)
  /-- Both ends of a token lie between characters of the text, and its text is what stands there. -/
  isSlice : ∀ t ∈ tokens, IsSlice source.toList ⟨t.start, t.stop⟩ t.text.toList
  /-- The last token is the end of the text and takes no room; all others are something else and
  take some. -/
  exists_finish : ∃ front, tokens = front ++ [⟨.endOfText, "", source.utf8ByteSize⟩] ∧
    ∀ t ∈ front, t.kind ≠ .endOfText ∧ t.start < t.stop
  /-- Tokens of the same kind can stand side by side, but not white space or identifiers. -/
  isChain_apart :
    tokens.IsChain (fun t u => t.kind = u.kind → t.kind ≠ .blank ∧ t.kind ≠ .identifier)

namespace Lexer

variable {p q r : Position} {t u : Token}

/-- White space and identifiers go on as long as they can, so that another token follows. -/
theorem Step.apart (h : Step p t q) (hnext : Step q u r) (hkind : t.kind = u.kind) :
    t.kind ≠ .blank ∧ t.kind ≠ .identifier := by
  obtain ⟨d, ds, htext⟩ := List.exists_cons_of_ne_nil hnext.text_ne_nil
  have hends : t.kind.EndsBefore t.text.toList d := h.endsBefore_next hnext (by rw [htext]; rfl)
  have hadmits := hnext.admits
  rw [htext, ← hkind] at hadmits
  constructor
  · intro hblank
    rw [hblank] at hends hadmits
    have hd : isBlank d = true := hadmits.2 d List.mem_cons_self
    exact absurd (hends.symm.trans hd) Bool.false_ne_true
  · intro hidentifier
    rw [hidentifier] at hends hadmits
    have hd : continuesName d = true := hadmits.2 d List.mem_cons_self
    exact absurd (hends.symm.trans hd) Bool.false_ne_true

/-- The tokens of a run stand in the text where their offsets say. -/
theorem Run.isSlice {cs : List Char} {tokens : List Token} (h : Run ⟨0, cs⟩ tokens q)
    (ht : t ∈ tokens) : IsSlice cs ⟨t.start, t.stop⟩ t.text.toList := by
  obtain ⟨before, after, rfl⟩ := List.append_of_mem ht
  obtain ⟨q₁, hbefore, hrun⟩ := h.exists_of_append
  cases hrun with
  | @step _ q₂ _ _ _ hstep _ =>
    have hstart : q₁.offset = byteSize (textOf before) := by simpa using hbefore.offset_eq
    refine ⟨textOf before, q₂.rest, ?_, ?_, ?_⟩
    · rw [← hstep.rest_eq]
      exact hbefore.rest_eq
    · rw [← hstart, hstep.start_eq]
    · rw [byteSize_append, ← hstart, hstep.stop_eq, hstep.offset_eq]

/-- A run to the end of a text, with the end of the text behind it, is a tiling. -/
theorem Run.isTiling {source : String} {front : List Token} {stop : Nat}
    (h : Run ⟨0, source.toList⟩ front ⟨stop, []⟩) :
    IsTiling source (front ++ [⟨.endOfText, "", stop⟩]) := by
  have htext : source.toList = textOf front := by simpa using h.rest_eq
  have hstop : stop = source.utf8ByteSize := by
    rw [← byteSize_toList, htext]
    simpa using h.offset_eq
  have hsteps : ∀ t ∈ front, t.kind ≠ .endOfText ∧ t.start < t.stop := by
    intro t ht
    obtain ⟨q, q', hstep⟩ := h.exists_of_mem ht
    exact ⟨hstep.kind_ne_endOfText, hstep.start_lt_stop⟩
  constructor
  · intro t ht
    cases front with
    | nil =>
      obtain rfl := Option.some.inj ht
      exact h.offset_eq
    | cons u front => exact h.start_eq_of_mem_head? ht
  · refine (h.isChain fun hstep hnext => ?_).append (.singleton _) ?_
    · rw [hstep.stop_eq, hnext.start_eq]
    · rintro last hlast _ ⟨⟩
      exact h.stop_eq_of_mem_getLast? hlast
  · rw [List.forall_mem_append, List.forall_mem_singleton]
    refine ⟨fun t ht => h.isSlice ht, source.toList, [], by simp, ?_, ?_⟩
    · rw [byteSize_toList, hstop]
    · show byteSize (source.toList ++ []) = stop + 0
      rw [List.append_nil, byteSize_toList, hstop, Nat.add_zero]
  · exact ⟨front, by rw [hstop], hsteps⟩
  · refine (h.isChain fun hstep hnext => hstep.apart hnext).append (.singleton _) ?_
    rintro last hlast _ ⟨⟩ hkind
    exact absurd hkind (hsteps last (List.mem_of_getLast? hlast)).1

end Lexer

/-- The tokens of a text tile it. Whether or not a text has tokens, a step takes a character or more
off its front, and steps lead to the end of the text or to an error, which is the outcome. -/
theorem tokenize_isTiling (source : String) :
    (∀ tokens, tokenize source = .ok tokens → IsTiling source tokens) ∧
    (∀ p t q, Lexer.Step p t q → ∃ taken, taken ≠ [] ∧ p.rest = taken ++ q.rest) ∧
    ∃ front last outcome, Lexer.Run ⟨0, source.toList⟩ front last ∧ Lexer.Halts last outcome ∧
      tokenize source = outcome.map (fun finish => front ++ [finish]) := by
  refine ⟨fun tokens h => ?_, fun p t q h => ⟨_, h.text_ne_nil, h.rest_eq⟩, Lexer.exists_run _⟩
  obtain ⟨front, stop, rfl, hrun⟩ := Lexer.exists_run_of_tokensFrom h
  exact hrun.isTiling

/-- Literals with characters of one to four bytes, an escaped quote, a numeral in front of a minus
sign, and no white space where none is needed. -/
theorem tokenize_isTiling_dense :
    let source := "a-b<=-1.5-2\"\\\"😀\"[[ö]],/\\/€/!=~ \n"
    let tokens : List Token :=
      [⟨.identifier, "a-b", 0⟩, ⟨.operator, "<=", 3⟩, ⟨.number, "-1.5", 5⟩, ⟨.number, "-2", 9⟩,
        ⟨.string, "\"\\\"😀\"", 11⟩, ⟨.pageRef, "[[ö]]", 19⟩, ⟨.comma, ",", 25⟩,
        ⟨.regex, "/\\/€/", 26⟩, ⟨.operator, "!=~", 33⟩, ⟨.blank, " \n", 36⟩, ⟨.endOfText, "", 38⟩]
    tokenize source = .ok tokens ∧ IsTiling source tokens := by
  intro source tokens
  have htokens : tokenize source = .ok tokens := by decide +kernel
  exact ⟨htokens, (tokenize_isTiling source).1 tokens htokens⟩

end NoteQuery
