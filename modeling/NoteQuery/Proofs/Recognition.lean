import NoteQuery.Proofs.Productions

/-!
# The parser and the grammar

The parser accepts the tokens of a text exactly if the grammar derives them, and then its tree is
the tree of the derivation.
-/

namespace NoteQuery.Syntax

theorem program_tokens (p : Program) (size : Nat) :
    program size p.tokens = .ok (p.tree size) := by
  obtain ⟨lead, q, trail, finish⟩ := p
  have hkind : finish.1.kind = .endOfText := eq_of_beq finish.2
  have hblank : isBlank finish.1 = false := by simp [isBlank, hkind]
  have hafter : afterBlanks (trail.tokens ++ [finish.1]) = [finish.1] := by
    rw [afterBlanks_gap_append, afterBlanks_cons hblank]
  have hblanks : blanks (trail.tokens ++ [finish.1]) = trail.leaves := by
    rw [blanks_gap_append, blanks_cons hblank, List.append_nil]
  have hatEnd : atEnd (afterBlanks (trail.tokens ++ [finish.1])) = true := by
    rw [hafter]
    exact finish.2
  have hsolid : StartsSolid q.tokens := ⟨q.table.1, _, rfl, isBlank_eq_false q.table⟩
  rw [Program.tokens, program, afterBlanks_gap_append_solid lead hsolid,
    blanks_gap_append_solid lead hsolid, query_append q hatEnd, ok_bind]
  dsimp only
  rw [if_pos hatEnd, hblanks]
  rfl

/-- Where the tokens of a text come to their end, nothing follows it. -/
theorem eq_singleton_of_atEnd {front behind : List Token} (h : WellRead (front ++ behind))
    (hfront : ∀ t ∈ front, t.kind ≠ .endOfText) (hbehind : atEnd behind = true) :
    ∃ finish : OfKind .endOfText, behind = [finish.1] := by
  obtain ⟨init, finish, heq, hfinish, hinit⟩ := h.endsOnce
  rcases List.append_eq_append_iff.1 heq with ⟨part, rfl, hpart⟩ | ⟨part, rfl, hpart⟩
  · cases part with
    | nil => exact ⟨⟨finish, by simp [hfinish]⟩, hpart⟩
    | cons t part =>
      rw [hpart, List.cons_append] at hbehind
      exact absurd (eq_of_beq hbehind) (hinit t (by simp))
  · -- the end of the text does not belong to the front
    have hmem : finish ∈ part ++ behind := by
      rw [← hpart]
      exact List.mem_singleton_self _
    rcases List.mem_append.1 hmem with hin | hin
    · exact absurd hfinish (hfront _ (List.mem_append_right _ hin))
    · cases part with
      | nil => exact ⟨⟨finish, by simp [hfinish]⟩, hpart.symm⟩
      | cons t part =>
        have hnil := (List.cons.inj hpart).2
        simp [(List.append_eq_nil_iff.1 hnil.symm).2] at hin

theorem exists_of_program {size : Nat} {tokens : List Token} {tree : Tree} (hread : WellRead tokens)
    (h : program size tokens = .ok tree) :
    ∃ p : Program, tokens = p.tokens ∧ tree = p.tree size := by
  obtain ⟨⟨root, rest⟩, hquery, h⟩ := exists_of_bind h
  dsimp only at h
  split at h
  · rename_i hatEnd
    obtain rfl := Except.ok.inj h
    obtain ⟨q, hq, rfl⟩ := exists_of_query hquery
    have hlead := eq_leadingGap_append tokens
    have htrail := eq_leadingGap_append rest
    generalize afterBlanks rest = behind at hatEnd htrail
    have htokens : tokens = (leadingGap tokens).tokens ++ (q.tokens ++ (leadingGap rest).tokens) ++
        behind := by
      rw [List.append_assoc, List.append_assoc, ← htrail, ← hq, ← hlead]
    have hfront : ∀ t ∈ (leadingGap tokens).tokens ++ (q.tokens ++ (leadingGap rest).tokens),
        t.kind ≠ .endOfText := by
      simp only [List.forall_mem_append]
      exact ⟨Gap.kind_ne_endOfText _, q.kind_ne_endOfText, Gap.kind_ne_endOfText _⟩
    obtain ⟨finish, rfl⟩ := eq_singleton_of_atEnd (htokens ▸ hread) hfront hatEnd
    refine ⟨⟨leadingGap tokens, q, leadingGap rest, finish⟩, ?_, rfl⟩
    rw [Program.tokens, ← List.append_assoc q.tokens, ← List.append_assoc, ← htokens]
  · cases h

/-- The parser builds a tree for the tokens of a text exactly if a derivation has these tokens and
this tree. -/
theorem program_eq_ok_iff {tokens : List Token} (hread : WellRead tokens) (size : Nat)
    (tree : Tree) :
    program size tokens = .ok tree ↔ ∃ p : Program, p.tokens = tokens ∧ p.tree size = tree := by
  constructor
  · intro h
    obtain ⟨p, rfl, rfl⟩ := exists_of_program hread h
    exact ⟨p, rfl, rfl⟩
  · rintro ⟨p, rfl, rfl⟩
    exact program_tokens p size

/-- The parser accepts the tokens of a text exactly if the grammar derives them. -/
theorem program_accepts_iff_derivable {source : String} {tokens : List Token}
    (htokens : tokenize source = .ok tokens) (size : Nat) :
    (∃ tree, program size tokens = .ok tree) ↔ ∃ p : Program, p.tokens = tokens := by
  have hread := wellRead_of_tokenize htokens
  constructor
  · rintro ⟨tree, h⟩
    obtain ⟨p, hp, -⟩ := (program_eq_ok_iff hread size tree).1 h
    exact ⟨p, hp⟩
  · rintro ⟨p, hp⟩
    exact ⟨p.tree size, (program_eq_ok_iff hread size _).2 ⟨p, hp, rfl⟩⟩

/-- A list in a list is derived; a filter on `asc` is not, if it stands behind an order that takes
its first word. -/
theorem program_accepts_iff_derivable_examples :
    (∃ tokens, tokenize "notes tag in [1, []]" = .ok tokens ∧ ∃ p : Program, p.tokens = tokens) ∧
      ∃ tokens, tokenize "notes order by x asc = 1" = .ok tokens ∧
        ¬ ∃ p : Program, p.tokens = tokens := by
  have haccepted : (tokenize "notes tag in [1, []]" >>= program 20).isOk = true := by decide +kernel
  have hread : (tokenize "notes order by x asc = 1").isOk = true := by decide +kernel
  have hrefused : (tokenize "notes order by x asc = 1" >>= program 24).isOk = false := by
    decide +kernel
  constructor
  · cases htokens : tokenize "notes tag in [1, []]" with
    | error e => rw [htokens] at haccepted; cases haccepted
    | ok tokens =>
      rw [htokens, ok_bind] at haccepted
      refine ⟨tokens, rfl, (program_accepts_iff_derivable htokens 20).1 ?_⟩
      cases htree : program 20 tokens with
      | error e => rw [htree] at haccepted; cases haccepted
      | ok tree => exact ⟨tree, rfl⟩
  · cases htokens : tokenize "notes order by x asc = 1" with
    | error e => rw [htokens] at hread; cases hread
    | ok tokens =>
      rw [htokens, ok_bind] at hrefused
      refine ⟨tokens, rfl, fun hp => ?_⟩
      obtain ⟨tree, htree⟩ := (program_accepts_iff_derivable htokens 24).2 hp
      rw [htree] at hrefused
      cases hrefused

end NoteQuery.Syntax
