import NoteQuery.Proofs.Lexemes
import NoteQuery.Proofs.Phrases

/-!
# Productions

Each production of the parser accepts exactly what its phrases derive, and it builds their trees. A
production that looks ahead, for a direction or for a comma, stops in front of tokens that do not go
on with one.

For each production there is a lemma for either direction: `exists_of_…` finds the phrase that has
been read, and `…_append` reads a phrase in front of any tokens.
-/

namespace NoteQuery.Syntax

/-! ## Single tokens -/

theorem exists_of_take {p : Token → Bool} {what : Expectation} {tokens rest : List Token}
    {leaf : Tree} (h : take p what tokens = .ok (leaf, rest)) :
    ∃ t : TokenOf p, tokens = t.1 :: rest ∧ leaf = leafOf t.1 := by
  cases tokens with
  | nil => simp [take] at h
  | cons t tokens =>
    rw [take] at h
    split at h
    · rename_i ht
      obtain ⟨rfl, rfl⟩ := Prod.mk.inj (Except.ok.inj h)
      exact ⟨⟨t, ht⟩, rfl, rfl⟩
    · simp at h

theorem take_cons {p : Token → Bool} (what : Expectation) (t : TokenOf p) (rest : List Token) :
    take p what (t.1 :: rest) = .ok (leafOf t.1, rest) := by
  rw [take, if_pos t.2]

theorem exists_of_fieldName {tokens rest : List Token} {tree : Tree}
    (h : fieldName tokens = .ok (tree, rest)) :
    ∃ name : TokenOf isName, tokens = name.1 :: rest ∧ tree = nameTree name := by
  obtain ⟨⟨leaf, rest'⟩, hname, h⟩ := exists_of_bind h
  obtain ⟨name, rfl, rfl⟩ := exists_of_take hname
  obtain ⟨rfl, rfl⟩ := Prod.mk.inj (Except.ok.inj h)
  exact ⟨name, rfl, rfl⟩

theorem fieldName_cons (name : TokenOf isName) (rest : List Token) :
    fieldName (name.1 :: rest) = .ok (nameTree name, rest) := by
  rw [fieldName, take_cons]
  rfl

/-! ## Values -/

mutual

theorem exists_of_value (fuel : Nat) {tokens rest : List Token} {tree : Tree}
    (h : value fuel tokens = .ok (tree, rest)) :
    ∃ v : ValuePhrase, tokens = v.tokens ++ rest ∧ tree = v.tree := by
  match fuel, tokens with
  | 0, _ => simp [value] at h
  | _ + 1, [] => simp [value] at h
  | fuel + 1, t :: tokens =>
    rw [value] at h
    split at h
    · rename_i ht
      obtain ⟨⟨trees, rest'⟩, hbody, h⟩ := exists_of_bind h
      obtain ⟨rfl, rfl⟩ := Prod.mk.inj (Except.ok.inj h)
      -- the gap belongs to the list, so it is the gap of either phrase
      let opening : OfKind .leftBracket := ⟨t, by simp [ht]⟩
      rcases exists_of_listBody fuel hbody with ⟨closing, hrest, rfl⟩ | ⟨is, hrest, rfl⟩
      · refine ⟨.emptyList opening (leadingGap tokens) closing, ?_, rfl⟩
        rw [ValuePhrase.tokens, List.cons_append, List.append_assoc, List.singleton_append, ← hrest,
          ← eq_leadingGap_append]
      · refine ⟨.list opening (leadingGap tokens) is, ?_, rfl⟩
        rw [ValuePhrase.tokens, List.cons_append, List.append_assoc, ← hrest,
          ← eq_leadingGap_append]
    · split at h
      · rename_i tag htag
        obtain ⟨token, rfl, rfl⟩ := exists_of_literalTag? htag
        obtain ⟨rfl, rfl⟩ := Prod.mk.inj (Except.ok.inj h)
        exact ⟨.literal token, rfl, rfl⟩
      · simp at h

theorem exists_of_listBody (fuel : Nat) {tokens rest : List Token} {gap trees : List Tree}
    (h : listBody fuel tokens gap = .ok (trees, rest)) :
    (∃ closing : OfKind .rightBracket, tokens = closing.1 :: rest ∧
      trees = gap ++ [leafOf closing.1]) ∨
      ∃ is : ItemPhrases, tokens = is.tokens ++ rest ∧ trees = gap ++ is.trees := by
  match fuel, tokens with
  | 0, _ => simp [listBody] at h
  | _ + 1, [] => simp [listBody] at h
  | fuel + 1, t :: tokens =>
    rw [listBody] at h
    split at h
    · rename_i ht
      obtain ⟨rfl, rfl⟩ := Prod.mk.inj (Except.ok.inj h)
      exact .inl ⟨⟨t, by simp [ht]⟩, rfl, rfl⟩
    · obtain ⟨⟨trees, rest'⟩, hitems, h⟩ := exists_of_bind h
      obtain ⟨rfl, rfl⟩ := Prod.mk.inj (Except.ok.inj h)
      obtain ⟨is, htokens, rfl⟩ := exists_of_items fuel hitems
      exact .inr ⟨is, htokens, rfl⟩

theorem exists_of_items (fuel : Nat) {tokens rest : List Token} {trees : List Tree}
    (h : items fuel tokens = .ok (trees, rest)) :
    ∃ is : ItemPhrases, tokens = is.tokens ++ rest ∧ trees = is.trees := by
  match fuel with
  | 0 => simp [items] at h
  | fuel + 1 =>
    rw [items] at h
    obtain ⟨⟨item, behind⟩, hitem, h⟩ := exists_of_bind h
    obtain ⟨v, rfl, rfl⟩ := exists_of_value fuel hitem
    dsimp only at h
    have hgap := eq_leadingGap_append behind
    split at h
    · simp at h
    · rename_i t others hbehind
      rw [hbehind] at hgap
      split at h
      · rename_i ht
        obtain ⟨⟨children, rest'⟩, hitems, h⟩ := exists_of_bind h
        obtain ⟨rfl, rfl⟩ := Prod.mk.inj (Except.ok.inj h)
        obtain ⟨is, hrest, rfl⟩ := exists_of_items fuel hitems
        refine ⟨.more v (leadingGap behind) ⟨t, by simp [ht]⟩ (leadingGap others) is, ?_, ?_⟩
        · rw [ItemPhrases.tokens, List.append_assoc, List.append_assoc, List.cons_append,
            List.append_assoc, ← hrest, ← eq_leadingGap_append, ← hgap]
        · simp [ItemPhrases.trees, leaves_leadingGap]
      · split at h
        · rename_i ht
          obtain ⟨rfl, rfl⟩ := Prod.mk.inj (Except.ok.inj h)
          refine ⟨.last v (leadingGap behind) ⟨t, by simp [ht]⟩, ?_, rfl⟩
          rw [ItemPhrases.tokens, List.append_assoc, List.append_assoc, List.singleton_append,
            ← hgap]
        · simp at h

end

mutual

/-- Three units of fuel for each token are enough for a value. -/
theorem value_append (v : ValuePhrase) (fuel : Nat) (hfuel : 3 * v.tokens.length ≤ fuel)
    (rest : List Token) : value fuel (v.tokens ++ rest) = .ok (v.tree, rest) := by
  match v with
  | .literal t =>
    rw [ValuePhrase.tokens, List.length_singleton] at hfuel
    obtain ⟨fuel, rfl⟩ : ∃ n, fuel = n + 1 := ⟨fuel - 1, by omega⟩
    -- a bracket would open a list
    have hkind : t.1.kind ≠ .leftBracket := by
      intro hkind
      have ht := t.2
      simp [isLiteral, isName, hkind] at ht
    rw [ValuePhrase.tokens, List.singleton_append, value, if_neg hkind, literalTag?_eq]
    rfl
  | .emptyList opening gap closing =>
    rw [ValuePhrase.tokens, List.length_cons, List.length_append, List.length_singleton] at hfuel
    obtain ⟨fuel, rfl⟩ : ∃ n, fuel = n + 2 := ⟨fuel - 2, by omega⟩
    have hopening : opening.1.kind = .leftBracket := eq_of_beq opening.2
    have hclosing : closing.1.kind = .rightBracket := eq_of_beq closing.2
    rw [ValuePhrase.tokens, List.cons_append, List.append_assoc, List.singleton_append, value,
      if_pos hopening, afterBlanks_gap_append_cons, blanks_gap_append_cons, listBody,
      if_pos hclosing]
    rfl
  | .list opening gap items =>
    rw [ValuePhrase.tokens, List.length_cons, List.length_append] at hfuel
    obtain ⟨fuel, rfl⟩ : ∃ n, fuel = n + 2 := ⟨fuel - 2, by omega⟩
    have hopening : opening.1.kind = .leftBracket := eq_of_beq opening.2
    have hitems := items_append items fuel (by omega) rest
    -- an item does not begin with the bracket that closes the list
    have hbody : listBody (fuel + 1) (items.tokens ++ rest) gap.leaves =
        .ok (gap.leaves ++ items.trees, rest) := by
      obtain ⟨t, others, htokens, -, hkind⟩ := items.exists_tokens_eq_cons
      rw [htokens, List.cons_append] at hitems ⊢
      rw [listBody, if_neg hkind, hitems]
      rfl
    rw [ValuePhrase.tokens, List.cons_append, List.append_assoc, value, if_pos hopening,
      afterBlanks_gap_append_solid gap items.startsSolid,
      blanks_gap_append_solid gap items.startsSolid, hbody]
    rfl

theorem items_append (is : ItemPhrases) (fuel : Nat) (hfuel : 3 * is.tokens.length ≤ fuel)
    (rest : List Token) : items fuel (is.tokens ++ rest) = .ok (is.trees, rest) := by
  match is with
  | .last item gap closing =>
    rw [ItemPhrases.tokens, List.length_append, List.length_append, List.length_singleton] at hfuel
    obtain ⟨fuel, rfl⟩ : ∃ n, fuel = n + 1 := ⟨fuel - 1, by omega⟩
    have hitem := value_append item fuel (by omega) (gap.tokens ++ closing.1 :: rest)
    have hclosing : closing.1.kind = .rightBracket := eq_of_beq closing.2
    have hcomma : closing.1.kind ≠ .comma := by simp [hclosing]
    rw [ItemPhrases.tokens, List.append_assoc, List.append_assoc, List.singleton_append, items,
      hitem, ok_bind]
    dsimp only
    rw [afterBlanks_gap_append_cons, blanks_gap_append_cons]
    dsimp only
    rw [if_neg hcomma, if_pos hclosing]
    rfl
  | .more item gap comma gap' items' =>
    rw [ItemPhrases.tokens, List.length_append, List.length_append, List.length_cons,
      List.length_append] at hfuel
    obtain ⟨fuel, rfl⟩ : ∃ n, fuel = n + 1 := ⟨fuel - 1, by omega⟩
    have hitem := value_append item fuel (by omega)
      (gap.tokens ++ comma.1 :: (gap'.tokens ++ (items'.tokens ++ rest)))
    have hitems := items_append items' fuel (by omega) rest
    have hcomma : comma.1.kind = .comma := eq_of_beq comma.2
    rw [ItemPhrases.tokens, List.append_assoc, List.append_assoc, List.cons_append,
      List.append_assoc, items, hitem, ok_bind]
    dsimp only
    rw [afterBlanks_gap_append_cons, blanks_gap_append_cons]
    dsimp only
    rw [if_pos hcomma, afterBlanks_gap_append_solid gap' items'.startsSolid,
      blanks_gap_append_solid gap' items'.startsSolid, hitems, ok_bind, ItemPhrases.trees]
    simp only [List.cons_append, List.append_assoc]
    rfl

end

/-! ## Filters -/

theorem exists_of_filterExpr {tokens rest : List Token} {tree : Tree}
    (h : filterExpr tokens = .ok (tree, rest)) :
    ∃ f : FilterPhrase, tokens = f.tokens ++ rest ∧ tree = f.tree := by
  obtain ⟨⟨field, rest₁⟩, hfield, h⟩ := exists_of_bind h
  obtain ⟨⟨operator, rest₂⟩, hoperator, h⟩ := exists_of_bind h
  obtain ⟨⟨operand, rest₃⟩, hoperand, h⟩ := exists_of_bind h
  obtain ⟨rfl, rfl⟩ := Prod.mk.inj (Except.ok.inj h)
  obtain ⟨name, rfl, rfl⟩ := exists_of_fieldName hfield
  obtain ⟨sign, hsign, rfl⟩ := exists_of_take hoperator
  obtain ⟨v, hv, rfl⟩ := exists_of_value _ hoperand
  have hgap₁ := eq_leadingGap_append rest₁
  have hgap₂ := eq_leadingGap_append rest₂
  rw [hsign] at hgap₁
  rw [hv] at hgap₂
  refine ⟨⟨name, leadingGap rest₁, sign, leadingGap rest₂, v⟩, ?_, ?_⟩
  · simp only [FilterPhrase.tokens, List.cons_append, List.append_assoc]
    rw [← hgap₂, ← hgap₁]
  · simp [FilterPhrase.tree, leaves_leadingGap]

theorem filterExpr_append (f : FilterPhrase) (rest : List Token) :
    filterExpr (f.tokens ++ rest) = .ok (f.tree, rest) := by
  obtain ⟨field, gap, operator, gap', operand⟩ := f
  have hvalue : value (fuelFor (gap'.tokens ++ (operand.tokens ++ rest))) (operand.tokens ++ rest) =
      .ok (operand.tree, rest) := by
    apply value_append
    rw [fuelFor, List.length_append, List.length_append]
    omega
  simp only [FilterPhrase.tokens, List.cons_append, List.append_assoc]
  rw [filterExpr, fieldName_cons, ok_bind]
  dsimp only
  rw [afterBlanks_gap_append_cons, blanks_gap_append_cons, take_cons, ok_bind]
  dsimp only
  rw [afterBlanks_gap_append_solid gap' operand.startsSolid,
    blanks_gap_append_solid gap' operand.startsSolid, hvalue, ok_bind, FilterPhrase.tree]
  simp only [List.cons_append, List.append_assoc]
  rfl

/-! ## Orders -/

/-- What is left behind an order without a direction does not go on with one. -/
theorem exists_of_direction {tokens rest : List Token} {trees : List Tree}
    (h : direction tokens = (trees, rest)) :
    (∃ d : DirectionPhrase, tokens = d.tokens ++ rest ∧ trees = d.trees) ∨
      (tokens = rest ∧ trees = [] ∧ ∀ t ∈ next? rest, isDirection t = false) := by
  have hgap := eq_leadingGap_append tokens
  unfold direction at h
  split at h
  · rename_i hnil
    obtain ⟨rfl, rfl⟩ := Prod.mk.inj h
    refine .inr ⟨rfl, rfl, fun t ht => ?_⟩
    simp [next?, hnil] at ht
  · rename_i t others hcons
    split at h
    · rename_i ht
      obtain ⟨rfl, rfl⟩ := Prod.mk.inj h
      refine .inl ⟨⟨leadingGap tokens, ⟨t, ht⟩⟩, ?_, rfl⟩
      rw [DirectionPhrase.tokens, List.append_assoc, List.singleton_append, ← hcons, ← hgap]
    · rename_i ht
      obtain ⟨rfl, rfl⟩ := Prod.mk.inj h
      -- nothing has been taken, so the next token is the one that was looked at
      refine .inr ⟨rfl, rfl, fun u hu => ?_⟩
      rw [next?, hcons, List.head?_cons, Option.mem_some_iff] at hu
      rw [← hu]
      exact Bool.eq_false_iff.2 ht

theorem direction_append (d : DirectionPhrase) (rest : List Token) :
    direction (d.tokens ++ rest) = (d.trees, rest) := by
  have hword : (d.word.1.isWord "asc" || d.word.1.isWord "desc") = true := d.word.2
  rw [DirectionPhrase.tokens, List.append_assoc, List.singleton_append, direction,
    afterBlanks_gap_append_cons]
  dsimp only
  rw [if_pos hword, blanks_gap_append_cons]
  rfl

theorem direction_eq_nil {tokens : List Token} (h : ∀ t ∈ next? tokens, isDirection t = false) :
    direction tokens = ([], tokens) := by
  unfold direction
  split
  · rfl
  · rename_i t others hcons
    have ht : (t.isWord "asc" || t.isWord "desc") = false := h t (by rw [next?, hcons]; rfl)
    rw [if_neg (Bool.eq_false_iff.1 ht)]

theorem exists_of_orderClause (word : Word "order") {tokens rest : List Token} {tree : Tree}
    (h : orderClause word.1 tokens = .ok (tree, rest)) :
    ∃ o : OrderPhrase, word.1 :: tokens = o.tokens ++ rest ∧ tree = o.tree ∧
      (o.direction = none → ∀ t ∈ next? rest, isDirection t = false) := by
  obtain ⟨⟨by', rest₁⟩, hby, h⟩ := exists_of_bind h
  obtain ⟨⟨field, rest₂⟩, hfield, h⟩ := exists_of_bind h
  obtain ⟨byWord, hword, rfl⟩ := exists_of_take hby
  obtain ⟨name, hname, rfl⟩ := exists_of_fieldName hfield
  cases hdirection : direction rest₂ with
  | mk trees rest₃ =>
    dsimp only at h
    rw [hdirection] at h
    obtain ⟨rfl, rfl⟩ := Prod.mk.inj (Except.ok.inj h)
    have hgap₁ := eq_leadingGap_append tokens
    have hgap₂ := eq_leadingGap_append rest₁
    rw [hword] at hgap₁
    rw [hname] at hgap₂
    rcases exists_of_direction hdirection with ⟨d, hrest, rfl⟩ | ⟨rfl, rfl, hnone⟩
    · refine ⟨⟨word, leadingGap tokens, byWord, leadingGap rest₁, name, some d⟩, ?_, ?_, nofun⟩
      · simp only [OrderPhrase.tokens, List.cons_append, List.append_assoc, Option.elim_some]
        rw [← hrest, ← hgap₂, ← hgap₁]
      · simp [OrderPhrase.tree, leaves_leadingGap]
    · refine ⟨⟨word, leadingGap tokens, byWord, leadingGap rest₁, name, none⟩, ?_, ?_,
        fun _ => hnone⟩
      · simp only [OrderPhrase.tokens, List.cons_append, List.append_assoc, Option.elim_none,
          List.nil_append]
        rw [← hgap₂, ← hgap₁]
      · simp [OrderPhrase.tree, leaves_leadingGap]

theorem orderClause_append (o : OrderPhrase) {rest : List Token}
    (hrest : o.direction = none → ∀ t ∈ next? rest, isDirection t = false) :
    ∃ tokens, o.tokens ++ rest = o.word.1 :: tokens ∧
      orderClause o.word.1 tokens = .ok (o.tree, rest) := by
  obtain ⟨word, gap, byWord, gap', field, direction?⟩ := o
  have htail : direction (direction?.elim [] DirectionPhrase.tokens ++ rest) =
      (direction?.elim [] DirectionPhrase.trees, rest) := by
    cases direction? with
    | none => exact direction_eq_nil (hrest rfl)
    | some d => exact direction_append d rest
  simp only [OrderPhrase.tokens, List.cons_append, List.append_assoc]
  refine ⟨_, rfl, ?_⟩
  rw [orderClause, afterBlanks_gap_append_cons, blanks_gap_append_cons, take_cons, ok_bind]
  dsimp only
  rw [afterBlanks_gap_append_cons, blanks_gap_append_cons, fieldName_cons, ok_bind]
  dsimp only
  rw [htail, OrderPhrase.tree]
  simp only [List.cons_append, List.append_assoc]
  rfl

/-! ## Limits -/

theorem exists_of_limitClause (word : Word "limit") {tokens rest : List Token} {tree : Tree}
    (h : limitClause word.1 tokens = .ok (tree, rest)) :
    ∃ l : LimitPhrase, word.1 :: tokens = l.tokens ++ rest ∧ tree = l.tree := by
  obtain ⟨⟨leaf, rest'⟩, hnumber, h⟩ := exists_of_bind h
  obtain ⟨rfl, rfl⟩ := Prod.mk.inj (Except.ok.inj h)
  obtain ⟨number, hcons, rfl⟩ := exists_of_take hnumber
  have hgap := eq_leadingGap_append tokens
  rw [hcons] at hgap
  refine ⟨⟨word, leadingGap tokens, number⟩, ?_, rfl⟩
  simp only [LimitPhrase.tokens, List.cons_append, List.append_assoc, List.nil_append]
  rw [← hgap]

theorem limitClause_append (l : LimitPhrase) (rest : List Token) :
    ∃ tokens, l.tokens ++ rest = l.word.1 :: tokens ∧
      limitClause l.word.1 tokens = .ok (l.tree, rest) := by
  obtain ⟨word, gap, number⟩ := l
  simp only [LimitPhrase.tokens, List.cons_append, List.append_assoc, List.nil_append]
  refine ⟨_, rfl, ?_⟩
  rw [limitClause, afterBlanks_gap_append_cons, blanks_gap_append_cons,
    take_cons (p := fun t => t.kind == .number), ok_bind]
  rfl

/-! ## Selections -/

theorem exists_of_furtherNames (fuel : Nat) {tokens rest : List Token} {trees : List Tree}
    (h : furtherNames fuel tokens = .ok (trees, rest)) :
    ∃ further : List FurtherName, tokens = further.flatMap FurtherName.tokens ++ rest ∧
      trees = further.flatMap FurtherName.trees := by
  induction fuel generalizing tokens rest trees with
  | zero =>
    obtain ⟨rfl, rfl⟩ := Prod.mk.inj (Except.ok.inj h)
    exact ⟨[], rfl, rfl⟩
  | succ fuel ih =>
    have hgap := eq_leadingGap_append tokens
    rw [furtherNames] at h
    split at h
    · obtain ⟨rfl, rfl⟩ := Prod.mk.inj (Except.ok.inj h)
      exact ⟨[], rfl, rfl⟩
    · rename_i t others hcons
      split at h
      · rename_i ht
        obtain ⟨⟨field, rest₁⟩, hfield, h⟩ := exists_of_bind h
        obtain ⟨⟨more, rest₂⟩, hmore, h⟩ := exists_of_bind h
        obtain ⟨rfl, rfl⟩ := Prod.mk.inj (Except.ok.inj h)
        obtain ⟨name, hname, rfl⟩ := exists_of_fieldName hfield
        obtain ⟨further, hfurther, rfl⟩ := ih hmore
        have hgap' := eq_leadingGap_append others
        rw [hname] at hgap'
        rw [hcons] at hgap
        refine ⟨⟨leadingGap tokens, ⟨t, by simp [ht]⟩, leadingGap others, name⟩ :: further, ?_, ?_⟩
        · simp only [List.flatMap_cons, FurtherName.tokens, List.cons_append, List.append_assoc,
            List.nil_append]
          rw [← hfurther, ← hgap', ← hgap]
        · simp [FurtherName.trees, leaves_leadingGap]
      · obtain ⟨rfl, rfl⟩ := Prod.mk.inj (Except.ok.inj h)
        exact ⟨[], rfl, rfl⟩

theorem furtherNames_append (further : List FurtherName) (fuel : Nat)
    (hfuel : further.length ≤ fuel) {rest : List Token}
    (hrest : ∀ t ∈ next? rest, t.kind ≠ .comma) :
    furtherNames fuel (further.flatMap FurtherName.tokens ++ rest) =
      .ok (further.flatMap FurtherName.trees, rest) := by
  induction further generalizing fuel with
  | nil =>
    cases fuel with
    | zero => rfl
    | succ fuel =>
      rw [List.flatMap_nil, List.nil_append, furtherNames]
      split
      · rfl
      · rename_i t others hcons
        have ht := hrest t (by rw [next?, hcons]; rfl)
        rw [if_neg ht]
        rfl
  | cons n further ih =>
    obtain ⟨gap, comma, gap', name⟩ := n
    rw [List.length_cons] at hfuel
    obtain ⟨fuel, rfl⟩ : ∃ n, fuel = n + 1 := ⟨fuel - 1, by omega⟩
    have hmore := ih fuel (by omega)
    have hcomma : comma.1.kind = .comma := eq_of_beq comma.2
    simp only [List.flatMap_cons, FurtherName.tokens, List.cons_append, List.append_assoc,
      List.nil_append]
    rw [furtherNames, afterBlanks_gap_append_cons]
    dsimp only
    rw [if_pos hcomma, afterBlanks_gap_append_cons, blanks_gap_append_cons, blanks_gap_append_cons,
      fieldName_cons, ok_bind]
    dsimp only
    rw [hmore, ok_bind, FurtherName.trees]
    simp only [List.cons_append, List.append_assoc]
    rfl

theorem exists_of_selectClause (word : Word "select") {tokens rest : List Token} {tree : Tree}
    (h : selectClause word.1 tokens = .ok (tree, rest)) :
    ∃ s : SelectPhrase, word.1 :: tokens = s.tokens ++ rest ∧ tree = s.tree := by
  obtain ⟨⟨field, rest₁⟩, hfield, h⟩ := exists_of_bind h
  obtain ⟨⟨more, rest₂⟩, hmore, h⟩ := exists_of_bind h
  obtain ⟨rfl, rfl⟩ := Prod.mk.inj (Except.ok.inj h)
  obtain ⟨name, hname, rfl⟩ := exists_of_fieldName hfield
  obtain ⟨further, hfurther, rfl⟩ := exists_of_furtherNames _ hmore
  have hgap := eq_leadingGap_append tokens
  rw [hname] at hgap
  refine ⟨⟨word, leadingGap tokens, name, further⟩, ?_, rfl⟩
  simp only [SelectPhrase.tokens, List.cons_append, List.append_assoc]
  rw [← hfurther, ← hgap]

theorem length_le_length_flatMap {α β : Type} (f : α → List β) (xs : List α)
    (h : ∀ x ∈ xs, f x ≠ []) : xs.length ≤ (xs.flatMap f).length := by
  induction xs with
  | nil => simp
  | cons x xs ih =>
    have htail := ih (fun y hy => h y (List.mem_cons_of_mem x hy))
    have hhead := List.length_pos_iff.2 (h x (List.mem_cons_self ..))
    rw [List.flatMap_cons, List.length_append, List.length_cons]
    omega

theorem selectClause_append (s : SelectPhrase) {rest : List Token}
    (hrest : ∀ t ∈ next? rest, t.kind ≠ .comma) :
    ∃ tokens, s.tokens ++ rest = s.word.1 :: tokens ∧
      selectClause s.word.1 tokens = .ok (s.tree, rest) := by
  obtain ⟨word, gap, first, further⟩ := s
  have hfuel : further.length ≤ (further.flatMap FurtherName.tokens ++ rest).length := by
    have hlength := length_le_length_flatMap FurtherName.tokens further
      (fun n _ => by simp [FurtherName.tokens])
    rw [List.length_append]
    omega
  simp only [SelectPhrase.tokens, List.cons_append, List.append_assoc]
  refine ⟨_, rfl, ?_⟩
  rw [selectClause, afterBlanks_gap_append_cons, blanks_gap_append_cons, fieldName_cons, ok_bind]
  dsimp only
  rw [furtherNames_append further _ hfuel hrest]
  rfl

/-! ## Render clauses -/

theorem exists_of_renderClause (word : Word "render") {tokens rest : List Token} {tree : Tree}
    (h : renderClause word.1 tokens = .ok (tree, rest)) :
    ∃ r : RenderPhrase, word.1 :: tokens = r.tokens ++ rest ∧ tree = r.tree := by
  have hgap := eq_leadingGap_append tokens
  unfold renderClause at h
  split at h
  · simp at h
  · rename_i t others hcons
    rw [hcons] at hgap
    split at h
    · rename_i ht
      obtain ⟨rfl, rfl⟩ := Prod.mk.inj (Except.ok.inj h)
      refine ⟨⟨word, leadingGap tokens, ⟨t, by simpa [isTarget] using ht⟩⟩, ?_, rfl⟩
      simp only [RenderPhrase.tokens, List.cons_append, List.append_assoc, List.nil_append]
      rw [← hgap]
    · simp at h

theorem renderClause_append (r : RenderPhrase) (rest : List Token) :
    ∃ tokens, r.tokens ++ rest = r.word.1 :: tokens ∧
      renderClause r.word.1 tokens = .ok (r.tree, rest) := by
  obtain ⟨word, gap, target⟩ := r
  have htarget : target.1.kind = .pageRef ∨ target.1.kind = .string := by
    simpa [isTarget] using target.2
  simp only [RenderPhrase.tokens, List.cons_append, List.append_assoc, List.nil_append]
  refine ⟨_, rfl, ?_⟩
  rw [renderClause, afterBlanks_gap_append_cons, blanks_gap_append_cons]
  dsimp only
  rw [if_pos htarget]
  rfl

/-! ## Clauses -/

theorem exists_of_connectedFilter {word : Token} {tokens rest : List Token} {trees : List Tree}
    (hword : isConnective word = true) (h : connectedFilter word tokens = .ok (trees, rest)) :
    ∃ (c : Connective) (f : FilterPhrase),
      word :: tokens = (Clause.filter (some c) f).tokens ++ rest ∧
        trees = (Clause.filter (some c) f).trees := by
  obtain ⟨⟨filter, rest'⟩, hfilter, h⟩ := exists_of_bind h
  obtain ⟨rfl, rfl⟩ := Prod.mk.inj (Except.ok.inj h)
  obtain ⟨f, hf, rfl⟩ := exists_of_filterExpr hfilter
  have hgap := eq_leadingGap_append tokens
  rw [hf] at hgap
  refine ⟨⟨⟨word, hword⟩, leadingGap tokens⟩, f, ?_, rfl⟩
  simp only [Clause.tokens, List.cons_append, List.append_assoc]
  rw [← hgap]

theorem connectedFilter_append (c : Connective) (f : FilterPhrase) (rest : List Token) :
    connectedFilter c.word.1 (c.gap.tokens ++ (f.tokens ++ rest)) =
      .ok ((Clause.filter (some c) f).trees, rest) := by
  rw [connectedFilter, afterBlanks_gap_append_solid c.gap f.startsSolid,
    blanks_gap_append_solid c.gap f.startsSolid, filterExpr_append, ok_bind]
  rfl

/-- The word at the front of a clause. -/
theorem isWord_of_kind_of_text {t : Token} {word : String} (hkind : t.kind = .identifier)
    (htext : t.text = word) : t.isWord word = true := by
  simp [Token.isWord, hkind, htext]

theorem exists_of_clause {tokens rest : List Token} {trees : List Tree}
    (h : clause tokens = .ok (trees, rest)) :
    ∃ c : Clause, tokens = c.tokens ++ rest ∧ trees = c.trees ∧
      (c.lacksDirection = true → ∀ t ∈ next? rest, isDirection t = false) := by
  cases tokens with
  | nil => simp [clause] at h
  | cons t tokens =>
    rw [clause] at h
    split at h
    · simp at h
    rename_i hkind
    have hkind : t.kind = .identifier := not_not.1 hkind
    split at h
    · rename_i htext
      have hword : isConnective t = true := by
        rcases htext with htext | htext
        · simp [isConnective, isWord_of_kind_of_text hkind htext]
        · simp [isConnective, isWord_of_kind_of_text hkind htext]
      obtain ⟨c, f, htokens, rfl⟩ := exists_of_connectedFilter hword h
      exact ⟨.filter (some c) f, htokens, rfl, fun h => absurd h Bool.false_ne_true⟩
    split at h
    · rename_i htext
      obtain ⟨⟨tree, behind⟩, horder, he⟩ := exists_of_map h
      obtain ⟨rfl, rfl⟩ := Prod.mk.inj he
      obtain ⟨o, htokens, rfl, hnone⟩ :=
        exists_of_orderClause ⟨t, isWord_of_kind_of_text hkind htext⟩ horder
      exact ⟨.order o, htokens, rfl, fun hlacks => hnone (Option.isNone_iff_eq_none.1 hlacks)⟩
    split at h
    · rename_i htext
      obtain ⟨⟨tree, behind⟩, hlimit, he⟩ := exists_of_map h
      obtain ⟨rfl, rfl⟩ := Prod.mk.inj he
      obtain ⟨l, htokens, rfl⟩ :=
        exists_of_limitClause ⟨t, isWord_of_kind_of_text hkind htext⟩ hlimit
      exact ⟨.limit l, htokens, rfl, fun h => absurd h Bool.false_ne_true⟩
    split at h
    · rename_i htext
      obtain ⟨⟨tree, behind⟩, hselect, he⟩ := exists_of_map h
      obtain ⟨rfl, rfl⟩ := Prod.mk.inj he
      obtain ⟨s, htokens, rfl⟩ :=
        exists_of_selectClause ⟨t, isWord_of_kind_of_text hkind htext⟩ hselect
      exact ⟨.select s, htokens, rfl, fun h => absurd h Bool.false_ne_true⟩
    split at h
    · rename_i htext
      obtain ⟨⟨tree, behind⟩, hrender, he⟩ := exists_of_map h
      obtain ⟨rfl, rfl⟩ := Prod.mk.inj he
      obtain ⟨r, htokens, rfl⟩ :=
        exists_of_renderClause ⟨t, isWord_of_kind_of_text hkind htext⟩ hrender
      exact ⟨.render r, htokens, rfl, fun h => absurd h Bool.false_ne_true⟩
    obtain ⟨⟨tree, behind⟩, hfilter, he⟩ := exists_of_map h
    obtain ⟨rfl, rfl⟩ := Prod.mk.inj he
    obtain ⟨f, htokens, rfl⟩ := exists_of_filterExpr hfilter
    exact ⟨.filter none f, htokens, rfl, fun h => absurd h Bool.false_ne_true⟩

theorem clause_append (c : Clause) {rest : List Token}
    (hcomma : ∀ t ∈ next? rest, t.kind ≠ .comma)
    (hdirection : c.lacksDirection = true → ∀ t ∈ next? rest, isDirection t = false) :
    clause (c.tokens ++ rest) = .ok (c.trees, rest) := by
  cases c with
  | filter connective f =>
    cases connective with
    | none =>
      have hfilter := filterExpr_append f rest
      have hkind := kind_of_isName f.field.2
      -- a filter begins with a name, and names are no words of clauses
      have htext := text_ne_of_isName f.field.2
      rw [Clause.tokens]
      rw [FilterPhrase.tokens, List.cons_append] at hfilter ⊢
      rw [clause, if_neg (not_not.2 hkind), if_neg, if_neg (htext _ (by decide)),
        if_neg (htext _ (by decide)), if_neg (htext _ (by decide)), if_neg (htext _ (by decide)),
        hfilter]
      · rfl
      · exact not_or.2 ⟨htext _ (by decide), htext _ (by decide)⟩
    | some c =>
      have hkind := kind_of_isConnective c.word.2
      have htext : c.word.1.text = "where" ∨ c.word.1.text = "and" := by
        have hword := c.word.2
        simp only [isConnective, Bool.or_eq_true] at hword
        exact hword.imp text_of_isWord text_of_isWord
      rw [Clause.tokens, List.cons_append, List.append_assoc, clause, if_neg (not_not.2 hkind),
        if_pos htext]
      exact connectedFilter_append c f rest
  | order o =>
    have hnone : o.direction = none → ∀ t ∈ next? rest, isDirection t = false :=
      fun h => hdirection (Option.isNone_iff_eq_none.2 h)
    obtain ⟨tokens, htokens, horder⟩ := orderClause_append o hnone
    have hkind := kind_of_isWord o.word.2
    have htext := text_of_isWord o.word.2
    rw [Clause.tokens, htokens, clause]
    simp [hkind, htext, horder, Except.map, Clause.trees]
  | limit l =>
    obtain ⟨tokens, htokens, hlimit⟩ := limitClause_append l rest
    have hkind := kind_of_isWord l.word.2
    have htext := text_of_isWord l.word.2
    rw [Clause.tokens, htokens, clause]
    simp [hkind, htext, hlimit, Except.map, Clause.trees]
  | select s =>
    obtain ⟨tokens, htokens, hselect⟩ := selectClause_append s hcomma
    have hkind := kind_of_isWord s.word.2
    have htext := text_of_isWord s.word.2
    rw [Clause.tokens, htokens, clause]
    simp [hkind, htext, hselect, Except.map, Clause.trees]
  | render r =>
    obtain ⟨tokens, htokens, hrender⟩ := renderClause_append r rest
    have hkind := kind_of_isWord r.word.2
    have htext := text_of_isWord r.word.2
    rw [Clause.tokens, htokens, clause]
    simp [hkind, htext, hrender, Except.map, Clause.trees]

/-! ## Queries -/

theorem exists_of_clauses (fuel : Nat) {tokens rest : List Token} {trees : List Tree}
    (h : clauses fuel tokens = .ok (trees, rest)) :
    ∃ cs : List SpacedClause, tokens = cs.flatMap SpacedClause.tokens ++ rest ∧
      trees = cs.flatMap SpacedClause.trees ∧ cs.IsChain SpacedClause.MayPrecede := by
  induction fuel generalizing tokens rest trees with
  | zero =>
    obtain ⟨rfl, rfl⟩ := Prod.mk.inj (Except.ok.inj h)
    exact ⟨[], rfl, rfl, .nil⟩
  | succ fuel ih =>
    have hgap := eq_leadingGap_append tokens
    rw [clauses] at h
    split at h
    · obtain ⟨rfl, rfl⟩ := Prod.mk.inj (Except.ok.inj h)
      exact ⟨[], rfl, rfl, .nil⟩
    split at h
    · simp at h
    rename_i hblanks
    obtain ⟨⟨first, rest₁⟩, hfirst, h⟩ := exists_of_bind h
    obtain ⟨⟨more, rest₂⟩, hmore, h⟩ := exists_of_bind h
    obtain ⟨rfl, rfl⟩ := Prod.mk.inj (Except.ok.inj h)
    obtain ⟨c, hc, rfl, hdirection⟩ := exists_of_clause hfirst
    obtain ⟨cs, hcs, rfl, hchain⟩ := ih hmore
    -- the parser has refused a clause without white space in front of it
    have hne : (leadingGap tokens).tokens ≠ [] := by
      intro hnil
      exact hblanks (by rw [← leaves_leadingGap, Gap.leaves, hnil]; rfl)
    rw [hc] at hgap
    refine ⟨⟨leadingGap tokens, hne, c⟩ :: cs, ?_, ?_, ?_⟩
    · simp only [List.flatMap_cons, SpacedClause.tokens, List.append_assoc]
      rw [← hcs, ← hgap]
    · simp [SpacedClause.trees, leaves_leadingGap]
    -- the token behind an order without direction is the first one of the next clause
    · refine hchain.cons (fun next hnext hlacks => ?_)
      obtain ⟨others, rfl⟩ := List.head?_eq_some_iff.1 hnext
      rw [List.flatMap_cons, List.append_assoc] at hcs
      obtain ⟨t, ht, -, hstarts⟩ := next.exists_next?_eq_some
        (others.flatMap SpacedClause.tokens ++ rest₂)
      rw [← hstarts]
      exact hdirection hlacks t (by rw [hcs, ht]; rfl)

theorem clauses_append (cs : List SpacedClause) (hchain : cs.IsChain SpacedClause.MayPrecede)
    (fuel : Nat) (hfuel : cs.length ≤ fuel) {rest : List Token}
    (hrest : atEnd (afterBlanks rest) = true) :
    clauses fuel (cs.flatMap SpacedClause.tokens ++ rest) =
      .ok (cs.flatMap SpacedClause.trees, rest) := by
  have hnext : ∀ t ∈ next? rest, t.kind = .endOfText := by
    intro t ht
    obtain ⟨others, hothers⟩ := List.head?_eq_some_iff.1 ht
    simpa [hothers, atEnd] using hrest
  induction cs generalizing fuel with
  | nil =>
    cases fuel with
    | zero => rfl
    | succ fuel =>
      rw [List.flatMap_nil, List.nil_append, clauses, if_pos hrest]
      rfl
  | cons c cs ih =>
    obtain ⟨fuel, rfl⟩ : ∃ n, fuel = n + 1 := ⟨fuel - 1, by simp at hfuel; omega⟩
    have hmore := ih hchain.tail fuel (by simpa using hfuel)
    -- what stands behind the clause: the next one, or the end of the text
    have hbehind : ∀ t ∈ next? (cs.flatMap SpacedClause.tokens ++ rest), t.kind ≠ .comma ∧
        (c.clause.lacksDirection = true → isDirection t = false) := by
      intro t ht
      cases cs with
      | nil =>
        have hkind := hnext t ht
        simp [hkind, isDirection, Token.isWord]
      | cons next others =>
        rw [List.flatMap_cons, List.append_assoc] at ht
        obtain ⟨u, hu, hkind, hstarts⟩ := next.exists_next?_eq_some
          (others.flatMap SpacedClause.tokens ++ rest)
        obtain rfl : u = t := Option.some.inj (hu.symm.trans ht)
        rw [hkind, hstarts]
        exact ⟨by decide, (List.isChain_cons_cons.1 hchain).1⟩
    have hclause := clause_append c.clause (fun t ht => (hbehind t ht).1)
      (fun hlacks t ht => (hbehind t ht).2 hlacks)
    obtain ⟨t, others, htokens, hkind, -⟩ := c.clause.exists_tokens_eq_cons
    have hblanks : (c.gap.leaves).isEmpty = false := by
      simp [Gap.leaves, c.gap_ne_nil]
    rw [List.flatMap_cons, List.append_assoc, SpacedClause.tokens, List.append_assoc, clauses,
      afterBlanks_gap_append_solid c.gap c.clause.startsSolid,
      blanks_gap_append_solid c.gap c.clause.startsSolid, if_neg, if_neg, hclause, ok_bind]
    · dsimp only
      rw [hmore, ok_bind]
      rfl
    · simp [hblanks]
    · simp [htokens, atEnd, hkind]

theorem exists_of_query {tokens rest : List Token} {tree : Tree}
    (h : query tokens = .ok (tree, rest)) :
    ∃ q : QueryPhrase, tokens = q.tokens ++ rest ∧ tree = q.tree := by
  obtain ⟨⟨table, rest₁⟩, htable, h⟩ := exists_of_bind h
  obtain ⟨⟨more, rest₂⟩, hmore, h⟩ := exists_of_bind h
  obtain ⟨rfl, rfl⟩ := Prod.mk.inj (Except.ok.inj h)
  obtain ⟨⟨leaf, rest₃⟩, hleaf, htable⟩ := exists_of_bind htable
  obtain ⟨rfl, rfl⟩ := Prod.mk.inj (Except.ok.inj htable)
  obtain ⟨name, rfl, rfl⟩ := exists_of_take hleaf
  obtain ⟨cs, hcs, rfl, hchain⟩ := exists_of_clauses _ hmore
  refine ⟨⟨name, cs, hchain⟩, ?_, rfl⟩
  rw [QueryPhrase.tokens, List.cons_append, ← hcs]

theorem query_append (q : QueryPhrase) {rest : List Token}
    (hrest : atEnd (afterBlanks rest) = true) : query (q.tokens ++ rest) = .ok (q.tree, rest) := by
  obtain ⟨table, cs, hchain⟩ := q
  have hfuel : cs.length ≤ (cs.flatMap SpacedClause.tokens ++ rest).length + 1 := by
    have hlength := length_le_length_flatMap SpacedClause.tokens cs
      (fun c _ => by simp [SpacedClause.tokens, c.gap_ne_nil])
    rw [List.length_append]
    omega
  have htable : tableName (table.1 :: (cs.flatMap SpacedClause.tokens ++ rest)) =
      .ok (.spanning Tree.Tag.tableName [leafOf table.1],
        cs.flatMap SpacedClause.tokens ++ rest) := by
    rw [tableName, take_cons]
    rfl
  rw [QueryPhrase.tokens, List.cons_append, query, htable, ok_bind]
  dsimp only
  rw [clauses_append cs hchain _ hfuel hrest]
  rfl

end NoteQuery.Syntax
