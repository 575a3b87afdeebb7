import NoteQuery.Proofs.Boundaries
import NoteQuery.Proofs.Slices

/-!
# Texts with more white space

A text is loosened by white space at the ends of its tokens, and by other white space in the place
of its own (`Lexer.Loosened`). Its tokens stay the same but for their places and for white space
(`Lexer.readsLoosely_of_loosened`): what follows a token begins with the same character as before,
or with a blank, and both end the token. White space that comes to stand side by side is one token.

So tokens are loosened (`Syntax.Loosened`) by moving them, by white space in front of them, and by
other white space where there was some.
-/

namespace NoteQuery

open Text Unicode

/-- A token at another place. -/
def Token.moved (t : Token) (start : Nat) : Token := { t with start := start }

/-! ## Tokens -/

namespace Syntax

/-- Tokens that differ in their places, and in white space: there can be more of it, and other, but
not less. -/
inductive Loosened : List Token → List Token → Prop
  | nil : Loosened [] []
  | solid {t : Token} {ts ts' : List Token} (ht : isBlank t = false) (start : Nat)
    (h : Loosened ts ts') : Loosened (t :: ts) (t.moved start :: ts')
  | more {b : Token} {ts ts' : List Token} (hb : isBlank b = true) (h : Loosened ts ts') :
    Loosened ts (b :: ts')
  | joined {b b' : Token} {ts ts' : List Token} (hb : isBlank b = true) (hb' : isBlank b' = true)
    (h : Loosened ts (b' :: ts')) : Loosened (b :: ts) (b' :: ts')

namespace Loosened

variable {ts ts' : List Token}

/-- White space is as good as other white space. -/
theorem exchange_blank {b b' : Token} (h : Loosened ts (b :: ts')) (hb : isBlank b = true)
    (hb' : isBlank b' = true) : Loosened ts (b' :: ts') := by
  induction ts with
  | nil =>
    cases h with
    | more _ h => exact .more hb' h
  | cons t ts ih =>
    cases h with
    | solid ht _ h =>
      have hblank : isBlank t = true := hb
      rw [ht] at hblank
      cases hblank
    | more _ h => exact .more hb' h
    | joined ht _ h => exact .joined ht hb' (ih h)

/-- White space in front can be left out of account. -/
theorem of_blank {b : Token} (hb : isBlank b = true) (h : Loosened (b :: ts) ts') :
    Loosened ts ts' := by
  induction ts' with
  | nil => cases h
  | cons t' ts' ih =>
    cases h with
    | solid ht _ h =>
      rw [ht] at hb
      cases hb
    | more hb' h => exact .more hb' (ih h)
    | joined _ _ h => exact h

theorem of_gap (gap : Gap) (h : Loosened (gap.tokens ++ ts) ts') : Loosened ts ts' := by
  obtain ⟨tokens, hblank⟩ := gap
  induction tokens with
  | nil => exact h
  | cons b tokens ih =>
    obtain ⟨hb, hblank⟩ := List.forall_mem_cons.1 hblank
    exact ih hblank (h.of_blank hb)

/-- Where there was white space, there is some. -/
theorem exists_of_blank {b : Token} (hb : isBlank b = true) (h : Loosened (b :: ts) ts') :
    ∃ b' others, ts' = b' :: others ∧ isBlank b' = true := by
  cases h with
  | solid ht _ h =>
    rw [ht] at hb
    cases hb
  | more hb' _ => exact ⟨_, _, rfl, hb'⟩
  | joined _ hb' _ => exact ⟨_, _, rfl, hb'⟩

/-- Any other token is found behind white space. -/
theorem exists_of_cons {t : Token} (ht : isBlank t = false) (h : Loosened (t :: ts) ts') :
    ∃ (gap : Gap) (start : Nat) (rest : List Token),
      ts' = gap.tokens ++ t.moved start :: rest ∧ Loosened ts rest := by
  induction ts' with
  | nil => cases h
  | cons t' ts' ih =>
    cases h with
    | solid _ start h => exact ⟨⟨[], nofun⟩, start, ts', rfl, h⟩
    | more hb h =>
      obtain ⟨gap, start, rest, rfl, hrest⟩ := ih h
      exact ⟨⟨_ :: gap.tokens, List.forall_mem_cons.2 ⟨hb, gap.isBlank_of_mem⟩⟩, start, rest, rfl,
        hrest⟩
    | joined hb _ _ =>
      rw [ht] at hb
      cases hb

end Loosened

end Syntax

/-! ## Texts -/

namespace Lexer

/-- At least one blank. -/
abbrev IsGap (cs : List Char) : Prop := TokenKind.blank.Admits cs

/-- A text with white space between its tokens, in front of them or behind them, and with other
white space in the place of its own. -/
inductive Loosened : List Char → List Char → Prop
  | nil : Loosened [] []
  | kept {c : Char} {cs : List Char} {l : Lexeme} {out : List Char} (hscan : scan c cs = .ok l)
    (h : Loosened l.rest out) : Loosened (c :: cs) (l.text ++ out)
  | replaced {c : Char} {cs : List Char} {l : Lexeme} {gap out : List Char}
    (hscan : scan c cs = .ok l)
    (hblank : l.kind = .blank) (hgap : IsGap gap) (h : Loosened l.rest out) :
    Loosened (c :: cs) (gap ++ out)
  | inserted {cs gap out : List Char} (hgap : IsGap gap) (h : Loosened cs out) :
    Loosened cs (gap ++ out)

theorem IsGap.exists_eq_cons {gap : List Char} (h : IsGap gap) :
    ∃ c others, gap = c :: others ∧ isBlank c = true := by
  obtain ⟨c, others, rfl⟩ := List.exists_cons_of_ne_nil h.1
  exact ⟨c, others, rfl, h.2 c (List.mem_cons_self ..)⟩

/-- A loosened text begins like the text, or with a blank. -/
theorem Loosened.head?_cases {cs out : List Char} (h : Loosened cs out) {d : Char}
    (hd : d ∈ out.head?) : isBlank d = true ∨ d ∈ cs.head? := by
  have hgap : ∀ {gap out : List Char}, IsGap gap → d ∈ (gap ++ out).head? → isBlank d = true := by
    intro gap out hgap hd
    obtain ⟨c, others, rfl, hc⟩ := hgap.exists_eq_cons
    obtain rfl := Option.some.inj hd
    exact hc
  cases h with
  | nil => exact .inr hd
  | @kept c cs l out hscan h =>
    -- the token is not empty, so the text begins with its first character
    obtain ⟨c', others, htext⟩ := List.exists_cons_of_ne_nil (scan_ne_nil hscan)
    have happend := scan_append hscan
    rw [htext] at hd happend
    obtain rfl := Option.some.inj hd
    exact .inr (congrArg some (List.head_eq_of_cons_eq happend).symm)
  | replaced _ _ hg _ => exact .inl (hgap hg hd)
  | inserted hg _ => exact .inl (hgap hg hd)

/-- A text has tokens wherever it starts, and they are loosened ones. -/
def ReadsLoosely (tokens : List Token) (out : List Char) : Prop :=
  ∀ offset, ∃ tokens', tokensFrom offset out = .ok tokens' ∧ Syntax.Loosened tokens tokens'

theorem Lexeme.stop_token (l : Lexeme) (offset : Nat) :
    (l.token offset).stop = offset + byteSize l.text := by
  rw [Lexeme.token, Token.stop, utf8ByteSize_ofList]

theorem Scans.unique {c : Char} {cs : List Char} {l l' : Lexeme} (h : Scans c cs l)
    (h' : Scans c cs l') : l = l' :=
  Except.ok.inj (h.scan_eq.symm.trans h'.scan_eq)

/-- The white space that a text begins with can be exchanged for any other token of white space. -/
theorem ReadsLoosely.exists_behind_blanks {tokens : List Token} {out : List Char}
    (h : ReadsLoosely tokens out) (offset : Nat) :
    ∃ tokens',
      tokensFrom (offset + byteSize (out.takeWhile isBlank)) (out.dropWhile isBlank) = .ok tokens' ∧
      ∀ b, Syntax.isBlank b = true → Syntax.Loosened tokens (b :: tokens') := by
  obtain ⟨tokens', htokens, hloosened⟩ := h offset
  -- a text that begins with a blank begins with a token of white space
  by_cases hfirst : ∃ d more, out = d :: more ∧ isBlank d = true
  · obtain ⟨d, more, rfl, hd⟩ := hfirst
    obtain ⟨l, behind, hscans, hbehind, rfl⟩ := exists_of_tokensFrom_cons htokens
    obtain rfl := hscans.unique (.blank hd)
    rw [Lexeme.stop_token] at hbehind
    exact ⟨behind, hbehind, fun b hb => hloosened.exchange_blank rfl hb⟩
  · have hnone : out.takeWhile isBlank = [] ∧ out.dropWhile isBlank = out := by
      cases out with
      | nil => exact ⟨rfl, rfl⟩
      | cons d more =>
        have hd : ¬ isBlank d = true := fun hd => hfirst ⟨d, more, rfl, hd⟩
        exact ⟨List.takeWhile_cons_of_neg hd, List.dropWhile_cons_of_neg hd⟩
    rw [hnone.1, hnone.2]
    exact ⟨tokens', htokens, fun b hb => .more hb hloosened⟩

/-- White space in front of a text makes one token with the white space that the text begins
with. -/
theorem ReadsLoosely.exists_gap_append {tokens : List Token} {gap out : List Char}
    (h : ReadsLoosely tokens out) (hgap : IsGap gap) (offset : Nat) :
    ∃ b tokens', tokensFrom offset (gap ++ out) = .ok (b :: tokens') ∧ Syntax.isBlank b = true ∧
      Syntax.Loosened tokens (b :: tokens') := by
  obtain ⟨c, others, rfl, hc⟩ := hgap.exists_eq_cons
  have hscans : Scans c (others ++ out) _ := .blank hc
  rw [run, ← List.cons_append, List.takeWhile_append_of_pos hgap.2,
    List.dropWhile_append_of_pos hgap.2] at hscans
  obtain ⟨tokens', htokens, hloosened⟩ := h.exists_behind_blanks (offset + byteSize (c :: others))
  rw [Nat.add_assoc, ← byteSize_append] at htokens
  have hread := tokensFrom_cons hscans offset
  rw [Lexeme.stop_token, htokens] at hread
  exact ⟨_, tokens', hread, rfl, hloosened _ rfl⟩

/-- A token is read where the rest is loosened, unless it is white space. -/
theorem Scans.of_loosened {c : Char} {cs out : List Char} {l : Lexeme} (h : Scans c cs l)
    (hkind : l.kind ≠ .blank) (hout : Loosened l.rest out) (hpoint : ∀ d ∈ l.rest.head?, d ≠ '.') :
    ∃ tail, l.text = c :: tail ∧ Scans c (tail ++ out) ⟨l.kind, l.text, out⟩ := by
  refine h.exchange (fun d hd => ?_)
  rcases hout.head?_cases hd with hblank | hsame
  · exact TokenKind.endsBefore_of_isBlank hkind hblank l.text
  · exact h.endsBefore hsame (hpoint d hsame)

/-- The tokens of a loosened text are loosened ones. -/
theorem readsLoosely_of_loosened {cs out : List Char} (h : Loosened cs out) {offset : Nat}
    {tokens : List Token} (htokens : tokensFrom offset cs = .ok tokens) :
    ReadsLoosely tokens out := by
  induction h generalizing offset tokens with
  | nil =>
    intro offset'
    rw [tokensFrom] at htokens
    obtain rfl := Except.ok.inj htokens
    refine ⟨[⟨.endOfText, "", offset'⟩], by rw [tokensFrom], ?_⟩
    exact .solid rfl offset' .nil
  | @kept c cs l out hscan hout ih =>
    obtain ⟨l', others, hscans, hothers, rfl⟩ := exists_of_tokensFrom_cons htokens
    obtain rfl := Except.ok.inj (hscan.symm.trans hscans.scan_eq)
    have hrest := ih hothers
    intro offset'
    -- white space that is kept joins the white space that is put behind it, any other token ends
    by_cases hkind : l.kind = .blank
    · have hgap : IsGap l.text := by
        have hadmits := admits_of_scan hscan
        rwa [hkind] at hadmits
      obtain ⟨b, tokens', htokens', hb, hloosened⟩ := hrest.exists_gap_append hgap offset'
      refine ⟨_, htokens', .joined ?_ hb hloosened⟩
      exact beq_iff_eq.2 hkind
    · obtain ⟨tail, htext, hscans'⟩ := hscans.of_loosened hkind hout
        (fun d hd => ne_point_of_tokensFrom hothers hd)
      obtain ⟨tokens', htokens', hloosened⟩ :=
        hrest (Lexeme.token ⟨l.kind, l.text, out⟩ offset').stop
      refine ⟨(l.token offset).moved offset' :: tokens', ?_, .solid ?_ offset' hloosened⟩
      · rw [htext, List.cons_append, tokensFrom_cons hscans', htokens']
        rfl
      · exact beq_eq_false_iff_ne.2 hkind
  | @replaced c cs l gap out hscan hblank hgap hout ih =>
    obtain ⟨l', others, hscans, hothers, rfl⟩ := exists_of_tokensFrom_cons htokens
    obtain rfl := Except.ok.inj (hscan.symm.trans hscans.scan_eq)
    intro offset'
    obtain ⟨b, tokens', htokens', hb, hloosened⟩ := (ih hothers).exists_gap_append hgap offset'
    refine ⟨_, htokens', .joined ?_ hb hloosened⟩
    exact beq_iff_eq.2 hblank
  | inserted hgap hout ih =>
    intro offset'
    obtain ⟨b, tokens', htokens', hb, hloosened⟩ := (ih htokens).exists_gap_append hgap offset'
    exact ⟨_, htokens', hloosened⟩

end Lexer

end NoteQuery
