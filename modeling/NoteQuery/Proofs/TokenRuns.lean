import NoteQuery.Proofs.Boundaries
import NoteQuery.Proofs.Lossless

/-!
# Cutting texts step by step

A step of the lexer cuts a token off the front of the text that is left (`Lexer.Step`). Steps end at
the end of the text, or where no token can be read (`Lexer.Halts`), and the tokens of a text are
those of all steps with the end of the text behind them (`Lexer.exists_run`). Since each step takes
at least one character, there are always finitely many. What holds of one step, or of two steps in a
row, is carried along a run by induction.
-/

namespace NoteQuery

open Text Unicode
open Syntax (textOf textOf_cons)

namespace Lexer

/-! ## Steps -/

/-- How far a text is cut: the byte offset that is reached, and the text that is left. -/
structure Position where
  offset : Nat
  rest : List Char

/-- The token at the front of what is left is cut off. -/
inductive Step : Position → Token → Position → Prop
  | cut {offset : Nat} {c : Char} {cs : List Char} {l : Lexeme} (h : scan c cs = .ok l) :
    Step ⟨offset, c :: cs⟩ (l.token offset) ⟨(l.token offset).stop, l.rest⟩

/-- There is no further step: nothing is left, and the end of the text is the last token, or no
token begins what is left. -/
inductive Halts : Position → Except ParseError Token → Prop
  | finished (offset : Nat) : Halts ⟨offset, []⟩ (.ok ⟨.endOfText, "", offset⟩)
  | refused {offset : Nat} {c : Char} {cs : List Char} {cause : LexicalError}
    (h : scan c cs = .error cause) : Halts ⟨offset, c :: cs⟩ (.error (.lexical cause offset))

/-- The tokens that steps cut off one after the other. -/
inductive Run : Position → List Token → Position → Prop
  | done (p : Position) : Run p [] p
  | step {p q r : Position} {t : Token} {ts : List Token} (h : Step p t q) (hrun : Run q ts r) :
    Run p (t :: ts) r

variable {p q r : Position} {t u : Token} {ts us : List Token}

namespace Step

theorem rest_eq (h : Step p t q) : p.rest = t.text.toList ++ q.rest := by
  obtain ⟨h⟩ := h
  show _ = (String.ofList _).toList ++ _
  rw [String.toList_ofList, scan_append h]

theorem admits (h : Step p t q) : t.kind.Admits t.text.toList := by
  obtain ⟨h⟩ := h
  show TokenKind.Admits _ (String.ofList _).toList
  rw [String.toList_ofList]
  exact admits_of_scan h

theorem text_ne_nil (h : Step p t q) : t.text.toList ≠ [] := by
  obtain ⟨h⟩ := h
  show (String.ofList _).toList ≠ []
  rw [String.toList_ofList]
  exact scan_ne_nil h

theorem start_eq (h : Step p t q) : t.start = p.offset := by
  obtain ⟨-⟩ := h
  rfl

theorem stop_eq (h : Step p t q) : t.stop = q.offset := by
  obtain ⟨-⟩ := h
  rfl

theorem offset_eq (h : Step p t q) : q.offset = p.offset + byteSize t.text.toList := by
  rw [← h.stop_eq, Token.stop, h.start_eq, byteSize_toList]

/-- A token takes room. -/
theorem start_lt_stop (h : Step p t q) : t.start < t.stop := by
  have hsize := byteSize_pos h.text_ne_nil
  rw [h.start_eq, h.stop_eq, h.offset_eq]
  omega

theorem kind_ne_endOfText (h : Step p t q) : t.kind ≠ .endOfText := by
  intro hkind
  have hadmits := h.admits
  rw [hkind] at hadmits
  exact h.text_ne_nil hadmits

theorem ne_point (h : Step p t q) {d : Char} (hd : d ∈ p.rest.head?) : d ≠ '.' := by
  obtain ⟨h⟩ := h
  obtain rfl := Option.some.inj hd
  exact (scans_of_scan h).ne_point

/-- What a token begins with is the first character that was left. -/
theorem head?_text (h : Step p t q) : t.text.toList.head? = p.rest.head? := by
  obtain ⟨c, cs, hcs⟩ := List.exists_cons_of_ne_nil h.text_ne_nil
  rw [h.rest_eq, hcs]
  rfl

/-- What is left begins with a character that ends the token, unless it is a point. -/
theorem endsBefore (h : Step p t q) {d : Char} (hd : d ∈ q.rest.head?) (hpoint : d ≠ '.') :
    t.kind.EndsBefore t.text.toList d := by
  obtain ⟨h⟩ := h
  show TokenKind.EndsBefore _ (String.ofList _).toList d
  rw [String.toList_ofList]
  exact (scans_of_scan h).endsBefore hd hpoint

/-- A token ends in front of the token of the next step. -/
theorem endsBefore_next (h : Step p t q) (hnext : Step q u r) {d : Char}
    (hd : d ∈ u.text.toList.head?) : t.kind.EndsBefore t.text.toList d := by
  rw [hnext.head?_text] at hd
  exact h.endsBefore hd (hnext.ne_point hd)

/-- The same step is taken where the text goes on in another way, if the token ends there, and
wherever the text stands. -/
theorem exchange (h : Step p t q) {other : List Char}
    (hother : ∀ d ∈ other.head?, t.kind.EndsBefore t.text.toList d) (offset : Nat) :
    Step ⟨offset, t.text.toList ++ other⟩ { t with start := offset }
      ⟨offset + byteSize t.text.toList, other⟩ := by
  obtain ⟨h⟩ := h
  rename_i l
  rw [Lexeme.token, String.toList_ofList] at hother ⊢
  obtain ⟨tail, htail, hscans⟩ := (scans_of_scan h).exchange hother
  have hcut : Step ⟨offset, _ :: (tail ++ other)⟩ _ _ := .cut hscans.scan_eq
  rw [Token.stop, Lexeme.token, utf8ByteSize_ofList] at hcut
  rwa [htail] at hcut ⊢

end Step

/-! ## Runs -/

namespace Run

theorem exists_of_append (h : Run p (ts ++ us) r) : ∃ q, Run p ts q ∧ Run q us r := by
  induction ts generalizing p with
  | nil => exact ⟨p, .done p, h⟩
  | cons t ts ih =>
    cases h with
    | step hstep hrun =>
      obtain ⟨q, hts, hus⟩ := ih hrun
      exact ⟨q, .step hstep hts, hus⟩

/-- A token of a run is cut off by one of its steps. -/
theorem exists_of_mem (h : Run p ts r) (ht : t ∈ ts) : ∃ q q', Step q t q' := by
  obtain ⟨before, after, rfl⟩ := List.append_of_mem ht
  obtain ⟨q, -, hrun⟩ := h.exists_of_append
  cases hrun with
  | step hstep _ => exact ⟨q, _, hstep⟩

theorem rest_eq (h : Run p ts q) : p.rest = textOf ts ++ q.rest := by
  induction h with
  | done p => rfl
  | step hstep _ ih => rw [hstep.rest_eq, ih, textOf_cons, List.append_assoc]

theorem offset_eq (h : Run p ts q) : q.offset = p.offset + byteSize (textOf ts) := by
  induction h with
  | done p => rfl
  | step hstep _ ih =>
    rw [ih, hstep.offset_eq, textOf_cons, byteSize_append]
    omega

theorem start_eq_of_mem_head? (h : Run p ts q) (ht : t ∈ ts.head?) : t.start = p.offset := by
  cases h with
  | done => cases ht
  | step hstep _ =>
    obtain rfl := Option.some.inj ht
    exact hstep.start_eq

/-- What holds of the tokens of any two steps in a row holds along a run. -/
theorem isChain {R : Token → Token → Prop}
    (hR : ∀ {p q r t u}, Step p t q → Step q u r → R t u) (h : Run p ts q) : ts.IsChain R := by
  induction h with
  | done p => exact .nil
  | step hstep hrun ih =>
    cases hrun with
    | done => exact .singleton _
    | step hnext _ => exact .cons_cons (hR hstep hnext) ih

/-- The last step leads to where a run ends. -/
theorem stop_eq_of_mem_getLast? (h : Run p ts q) (ht : t ∈ ts.getLast?) : t.stop = q.offset := by
  induction h with
  | done p => cases ht
  | step hstep hrun ih =>
    cases hrun with
    | done =>
      obtain rfl := Option.some.inj ht
      exact hstep.stop_eq
    | step => exact ih ht

/-- The tokens of a run are read where the text goes on in another way, if the last one ends
there. -/
theorem exchange (h : Run p ts q) {other : List Char}
    (hother : ∀ last ∈ ts.getLast?, ∀ d ∈ other.head?, last.kind.EndsBefore last.text.toList d) :
    Run ⟨p.offset, textOf ts ++ other⟩ ts ⟨q.offset, other⟩ := by
  induction h with
  | done p => exact .done _
  | @step p q r t ts hstep hrun ih =>
    have hends : ∀ d ∈ (textOf ts ++ other).head?, t.kind.EndsBefore t.text.toList d := by
      intro d hd
      cases hrun with
      | done => exact hother t rfl d hd
      | @step _ _ _ u us hnext _ =>
        -- the next token begins with the same character as before
        obtain ⟨c, cs, hcs⟩ := List.exists_cons_of_ne_nil hnext.text_ne_nil
        refine hstep.endsBefore_next hnext ?_
        rw [textOf_cons, hcs] at hd
        rwa [hcs]
    have hlater :
        ∀ last ∈ ts.getLast?, ∀ d ∈ other.head?, last.kind.EndsBefore last.text.toList d := by
      intro last hlast
      apply hother last
      rw [List.getLast?_cons, hlast]
      rfl
    have hcut := hstep.exchange hends p.offset
    rw [← hstep.offset_eq, ← hstep.start_eq] at hcut
    rw [← hstep.start_eq, textOf_cons, List.append_assoc]
    exact .step hcut (ih hlater)

end Run

/-! ## Whole texts -/

theorem Step.tokensFrom_eq (h : Step p t q) :
    tokensFrom p.offset p.rest = (tokensFrom q.offset q.rest).map (fun tokens => t :: tokens) := by
  obtain ⟨h⟩ := h
  exact tokensFrom_cons (scans_of_scan h) _

theorem Run.tokensFrom_eq (h : Run p ts q) :
    tokensFrom p.offset p.rest = (tokensFrom q.offset q.rest).map (fun tokens => ts ++ tokens) := by
  induction h with
  | done p =>
    show _ = (tokensFrom p.offset p.rest).map id
    cases tokensFrom p.offset p.rest <;> rfl
  | @step p q r t ts hstep _ ih =>
    rw [hstep.tokensFrom_eq, ih]
    cases tokensFrom r.offset r.rest <;> rfl

theorem Halts.tokensFrom_eq {outcome : Except ParseError Token} (h : Halts p outcome) :
    tokensFrom p.offset p.rest = outcome.map (fun finish => [finish]) := by
  cases h with
  | finished offset =>
    rw [tokensFrom]
    rfl
  | refused h =>
    rw [tokensFrom]
    split
    · rename_i cause' herror
      obtain rfl := Except.error.inj (h.symm.trans herror)
      rfl
    · rename_i l hl
      rw [h] at hl
      cases hl

/-- Steps lead from any position to one where there is no further step. -/
theorem exists_halts (p : Position) :
    ∃ front last outcome, Run p front last ∧ Halts last outcome := by
  obtain ⟨offset, cs⟩ := p
  induction hn : cs.length using Nat.strongRecOn generalizing offset cs with
  | _ n ih =>
    cases cs with
    | nil => exact ⟨[], _, _, .done _, .finished offset⟩
    | cons c cs =>
      cases hscan : scan c cs with
      | error cause => exact ⟨[], _, _, .done _, .refused hscan⟩
      | ok l =>
        have hlt : l.rest.length < n := hn ▸ length_rest_lt hscan
        obtain ⟨front, last, outcome, hrun, hhalts⟩ := ih _ hlt (l.token offset).stop l.rest rfl
        exact ⟨l.token offset :: front, last, outcome, .step (.cut hscan) hrun, hhalts⟩

/-- The tokens of a text are those of all steps, with the end of the text behind them. -/
theorem exists_run (p : Position) :
    ∃ front last outcome, Run p front last ∧ Halts last outcome ∧
      tokensFrom p.offset p.rest = outcome.map (fun finish => front ++ [finish]) := by
  obtain ⟨front, last, outcome, hrun, hhalts⟩ := exists_halts p
  refine ⟨front, last, outcome, hrun, hhalts, ?_⟩
  rw [hrun.tokensFrom_eq, hhalts.tokensFrom_eq]
  cases outcome <;> rfl

theorem exists_run_of_tokensFrom {offset : Nat} {cs : List Char} {tokens : List Token}
    (h : tokensFrom offset cs = .ok tokens) :
    ∃ front stop, tokens = front ++ [⟨.endOfText, "", stop⟩] ∧
      Run ⟨offset, cs⟩ front ⟨stop, []⟩ := by
  obtain ⟨front, last, outcome, hrun, hhalts, heq⟩ := exists_run ⟨offset, cs⟩
  rw [h] at heq
  cases hhalts with
  | finished stop => exact ⟨front, stop, Except.ok.inj heq, hrun⟩
  | refused => cases heq

/-- Where the tokens of a text are cut in two, there is a position between the steps. -/
theorem exists_runs_of_tokensFrom {offset : Nat} {cs : List Char} {before after : List Token}
    (h : tokensFrom offset cs = .ok (before ++ t :: after)) :
    ∃ q more stop, Run ⟨offset, cs⟩ before q ∧ Run q more ⟨stop, []⟩ ∧ q.offset = t.start ∧
      t :: after = more ++ [⟨.endOfText, "", stop⟩] := by
  obtain ⟨front, stop, heq, hrun⟩ := exists_run_of_tokensFrom h
  rcases List.eq_nil_or_concat (t :: after) with hnil | ⟨more, last, hmore⟩
  · cases hnil
  · rw [List.concat_eq_append] at hmore
    rw [hmore, ← List.append_assoc] at heq
    obtain ⟨rfl, hlast⟩ := List.append_inj' heq rfl
    obtain rfl := List.singleton_inj.1 hlast
    obtain ⟨q, hbefore, hrest⟩ := hrun.exists_of_append
    refine ⟨q, more, stop, hbefore, hrest, ?_, hmore⟩
    cases hrest with
    | done =>
      obtain ⟨rfl, -⟩ := List.cons.inj hmore
      rfl
    | step hstep _ =>
      obtain ⟨rfl, -⟩ := List.cons.inj hmore
      exact hstep.start_eq.symm

theorem exists_run_of_tokensFrom_error {offset : Nat} {cs : List Char} {e : ParseError}
    (h : tokensFrom offset cs = .error e) :
    ∃ front last, Run ⟨offset, cs⟩ front last ∧ Halts last (.error e) := by
  obtain ⟨front, last, outcome, hrun, hhalts, heq⟩ := exists_run ⟨offset, cs⟩
  rw [h] at heq
  cases hhalts with
  | finished stop => cases heq
  | refused hscan =>
    obtain rfl := Except.error.inj heq
    exact ⟨front, _, hrun, .refused hscan⟩

end Lexer

end NoteQuery
