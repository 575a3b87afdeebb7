import NoteQuery.Query.OfTree
import NoteQuery.Proofs.Lexemes
import NoteQuery.Proofs.Phrases
import NoteQuery.Proofs.Rebuilding
import NoteQuery.Proofs.TreeSearch

/-!
# Dropping white space from trees

In the tree of a text, normalization removes the leaves of white space and keeps everything else as
it is, because no other token has white space at its ends.
-/

namespace NoteQuery

open Unicode

/-! ## Trimmed texts -/

/-- A text without white space at its ends. -/
structure IsTrimmed (cs : List Char) : Prop where
  ne_nil : cs ≠ []
  isBlank_head : ∀ c ∈ cs.head?, isBlank c = false
  isBlank_last : ∀ c ∈ cs.getLast?, isBlank c = false

theorem dropWhile_isBlank_eq_self {cs : List Char} (h : ∀ c ∈ cs.head?, isBlank c = false) :
    cs.dropWhile isBlank = cs := by
  cases cs with
  | nil => rfl
  | cons c cs => rw [List.dropWhile_cons_of_neg (by simp [h c rfl])]

theorem trim_eq_self {cs : List Char} (h : IsTrimmed cs) : trim cs = cs := by
  have hlast : ∀ c ∈ cs.reverse.head?, isBlank c = false := by
    rw [List.head?_reverse]
    exact h.isBlank_last
  rw [trim, dropWhile_isBlank_eq_self h.isBlank_head, dropWhile_isBlank_eq_self hlast,
    List.reverse_reverse]

theorem trim_eq_nil {cs : List Char} (h : ∀ c ∈ cs, isBlank c = true) : trim cs = [] := by
  rw [trim, List.dropWhile_eq_nil_iff.2 h]
  rfl

theorem IsTrimmed.of_forall {cs : List Char} (hne : cs ≠ []) (h : ∀ c ∈ cs, isBlank c = false) :
    IsTrimmed cs where
  ne_nil := hne
  isBlank_head c hc := h c (List.mem_of_mem_head? hc)
  isBlank_last c hc := h c (List.mem_of_mem_getLast? hc)

theorem IsTrimmed.of_ends {first last : Char} (hfirst : isBlank first = false)
    (hlast : isBlank last = false) (body : List Char) : IsTrimmed (first :: (body ++ [last])) where
  ne_nil := by simp
  isBlank_head c hc := by
    obtain rfl := Option.some.inj hc
    exact hfirst
  isBlank_last c hc := by
    rw [← List.cons_append, List.getLast?_concat] at hc
    obtain rfl := Option.some.inj hc
    exact hlast

/-- White space is no letter and no number. -/
theorem isAlphanumeric_of_isBlank {c : Char} (h : isBlank c = true) : isAlphanumeric c = false := by
  have hcategory := category_of_isBlank h
  unfold isAlphanumeric isAlphabetic isNumeric
  cases hcat : category c <;>
    simp_all [Category.isSeparator, Category.isNumber, Category.isLetter]

theorem isBlank_of_continuesName {c : Char} (h : Lexer.continuesName c = true) :
    isBlank c = false := by
  by_contra hblank
  have hblank : isBlank c = true := by simpa using hblank
  simp only [Lexer.continuesName, isAlphanumeric_of_isBlank hblank, Bool.false_or, Bool.or_eq_true,
    beq_iff_eq] at h
  rcases h with ((rfl | rfl) | rfl) | rfl <;> exact absurd hblank (by decide)

theorem category_of_isAsciiDigit {c : Char} (h : isAsciiDigit c = true) :
    category c = .decimalNumber := by
  have hdigit : '0' ≤ c ∧ c ≤ '9' := by simpa [isAsciiDigit] using h
  have hlow : 48 ≤ c.toNat := hdigit.1
  have hhigh : c.toNat ≤ 57 := hdigit.2
  have hspace : c ≠ ' ' := by
    rintro rfl
    simp at hlow
  have hcontrol : isControl c = false := by
    simp only [isControl, Bool.or_eq_false_iff, Bool.and_eq_false_iff, decide_eq_false_iff_not]
    omega
  rw [category, if_neg (by simp [hcontrol]), if_pos (by omega), asciiCategory, if_neg hspace,
    if_pos hdigit]

theorem isBlank_of_isAsciiDigit {c : Char} (h : isAsciiDigit c = true) : isBlank c = false := by
  have halphanumeric : isAlphanumeric c = true := by
    simp [isAlphanumeric, isNumeric, category_of_isAsciiDigit h, Category.isNumber]
  exact isBlank_of_continuesName (by simp [Lexer.continuesName, halphanumeric])

theorem isBlank_of_mem_isNumeral {cs : List Char} (h : IsNumeral cs) :
    ∀ c ∈ cs, isBlank c = false := by
  have hsigns : ∀ sign : List Char, IsSign sign → ∀ c ∈ sign, isBlank c = false := by
    rintro sign (rfl | rfl)
    · nofun
    · exact List.forall_mem_singleton.2 (by decide)
  cases h with
  | whole hsign hdigits =>
    rw [List.forall_mem_append]
    exact ⟨hsigns _ hsign, fun c hc => isBlank_of_isAsciiDigit (hdigits.isAsciiDigit_of_mem c hc)⟩
  | decimal hsign hdigits hfraction =>
    rw [List.forall_mem_append, List.forall_mem_append, List.forall_mem_cons]
    exact ⟨hsigns _ hsign, fun c hc => isBlank_of_isAsciiDigit (hdigits.isAsciiDigit_of_mem c hc),
      by decide, fun c hc => isBlank_of_isAsciiDigit (hfraction.isAsciiDigit_of_mem c hc)⟩

theorem IsNumeral.ne_nil {cs : List Char} (h : IsNumeral cs) : cs ≠ [] := by
  cases h with
  | whole hsign hdigits => simp [hdigits.ne_nil]
  | decimal hsign hdigits hfraction => simp

/-- Only tokens of white space have white space at their ends. -/
theorem isTrimmed_of_admits {kind : TokenKind} {cs : List Char} (h : kind.Admits cs)
    (hblank : kind ≠ .blank) (hend : kind ≠ .endOfText) : IsTrimmed cs := by
  cases kind with
  | identifier => exact .of_forall h.1 (fun c hc => isBlank_of_continuesName (h.2 c hc))
  | number => exact .of_forall (IsNumeral.ne_nil h) (isBlank_of_mem_isNumeral h)
  | string =>
    obtain ⟨quote, body, hquote, rfl⟩ := h
    have hquote : isBlank quote = false := by rcases hquote with rfl | rfl <;> decide
    exact .of_ends hquote hquote body
  | regex =>
    obtain ⟨body, rfl⟩ := h
    exact .of_ends (by decide) (by decide) body
  | pageRef =>
    obtain ⟨body, rfl⟩ := h
    have hsplit : '[' :: (body ++ [']', ']']) = ('[' :: (body ++ [']'])) ++ [']'] := by simp
    rw [hsplit]
    exact .of_ends (by decide) (by decide) _
  | operator =>
    obtain ⟨comparison, rfl⟩ := h
    have hnone : comparison.symbol.toList.all (fun c => !isBlank c) = true := by
      cases comparison <;> decide
    refine .of_forall (by cases comparison <;> decide) (fun c hc => ?_)
    simpa using List.all_eq_true.1 hnone c hc
  | leftBracket =>
    obtain rfl : cs = ['['] := h
    exact .of_forall (List.cons_ne_nil _ _) (List.forall_mem_singleton.2 (by decide))
  | rightBracket =>
    obtain rfl : cs = [']'] := h
    exact .of_forall (List.cons_ne_nil _ _) (List.forall_mem_singleton.2 (by decide))
  | comma =>
    obtain rfl : cs = [','] := h
    exact .of_forall (List.cons_ne_nil _ _) (List.forall_mem_singleton.2 (by decide))
  | blank => exact absurd rfl hblank
  | endOfText => exact absurd rfl hend

/-! ## Normalization tree by tree -/

namespace Tree

variable {tag : String}

/-- What normalization leaves of several trees. -/
def normalizedAll (ts : List Tree) : List Tree :=
  (rebuiltAll (fun node (_ : Unit) => (normalizeNode node, ())) ts ()).1

theorem children_normalize (t : Tree) : t.normalize.children = normalizedAll t.children :=
  children_mapBelow normalizeNode t

theorem hasTag_normalize (t : Tree) : t.normalize.hasTag tag = t.hasTag tag := rfl

theorem normalizedAll_nil : normalizedAll [] = [] := rfl

/-- What normalization leaves of a single tree. -/
theorem normalizedAll_cons (t : Tree) (ts : List Tree) :
    normalizedAll (t :: ts) =
      (match normalizeNode t with
        | .keep label => [⟨label, normalizedAll t.children⟩]
        | .remove => []
        | .replace other => [other]) ++ normalizedAll ts := mapAll_cons normalizeNode t ts

theorem normalizedAll_append (ts us : List Tree) :
    normalizedAll (ts ++ us) = normalizedAll ts ++ normalizedAll us :=
      mapAll_append normalizeNode ts us

/-- Tagged nodes stay. -/
theorem normalizedAll_cons_of_hasTag {t : Tree} (ht : t.hasTag tag = true) (ts : List Tree) :
    normalizedAll (t :: ts) = t.normalize :: normalizedAll ts := by
  have htag : t.tag = some tag := eq_of_beq ht
  have hkeep : normalizeNode t = .keep t.label := by rw [normalizeNode, htag]
  rw [normalizedAll_cons, hkeep]
  rfl

/-- A node is removed, or it stays with its tag. -/
theorem normalizeNode_cases (t : Tree) :
    normalizeNode t = .remove ∨ ∃ label, normalizeNode t = .keep label ∧ label.tag = t.tag := by
  unfold normalizeNode
  split
  · exact .inr ⟨t.label, rfl, rfl⟩
  · exact .inl rfl
  · dsimp only
    split
    · exact .inl rfl
    · exact .inr ⟨_, rfl, rfl⟩

mutual

/-- Normalization brings in no node. -/
theorem firstIn?_normalizedAll_singleton (t : Tree) (h : firstIn? tag [t] = none) :
    firstIn? tag (normalizedAll [t]) = none := by
  match t with
  | ⟨label, children⟩ =>
    obtain ⟨ht, hchildren, -⟩ := firstIn?_cons_eq_none_iff.1 h
    have hchildren := firstIn?_normalizedAll children hchildren
    rcases normalizeNode_cases ⟨label, children⟩ with hremove | ⟨label', hkeep, htag⟩
    · rw [normalizedAll_cons, hremove]
      exact firstIn?_nil
    · rw [normalizedAll_cons, hkeep]
      refine firstIn?_cons_eq_none_iff.2 ⟨?_, hchildren, firstIn?_nil⟩
      show (label'.tag == some tag) = false
      rw [htag]
      exact ht

theorem firstIn?_normalizedAll (ts : List Tree) (h : firstIn? tag ts = none) :
    firstIn? tag (normalizedAll ts) = none := by
  match ts with
  | [] => exact firstIn?_nil
  | t :: ts =>
    obtain ⟨ht, hchildren, hts⟩ := firstIn?_cons_eq_none_iff.1 h
    have hfirst := firstIn?_normalizedAll_singleton t
      (firstIn?_cons_eq_none_iff.2 ⟨ht, hchildren, firstIn?_nil⟩)
    rw [← List.singleton_append, normalizedAll_append, firstIn?_append, hfirst,
      firstIn?_normalizedAll ts hts]
    rfl

end

end Tree

/-! ## Leaves of tokens -/

/-- The text of a token has the form of its kind. -/
def Token.IsSpelled (t : Token) : Prop := t.kind.Admits t.text.toList

namespace Syntax

open NoteQuery.Tree

/-- Every token is spelled as its kind asks. -/
def AllSpelled (tokens : List Token) : Prop := ∀ t ∈ tokens, t.IsSpelled

theorem allSpelled_cons_iff {t : Token} {tokens : List Token} :
    AllSpelled (t :: tokens) ↔ t.IsSpelled ∧ AllSpelled tokens := List.forall_mem_cons

theorem allSpelled_append_iff {tokens others : List Token} :
    AllSpelled (tokens ++ others) ↔ AllSpelled tokens ∧ AllSpelled others := List.forall_mem_append

theorem normalizeNode_leafOf_of_isBlank {t : Token} (hspelled : t.IsSpelled)
    (ht : isBlank t = true) : normalizeNode (leafOf t) = .remove := by
  have hkind : t.kind = .blank := eq_of_beq ht
  rw [Token.IsSpelled, hkind] at hspelled
  show (if (trim t.text.toList).isEmpty then Replacement.remove else _) = .remove
  rw [trim_eq_nil hspelled.2]
  rfl

theorem normalizedAll_gap_append (gap : Gap) (hspelled : AllSpelled gap.tokens) (ts : List Tree) :
    normalizedAll (gap.leaves ++ ts) = normalizedAll ts := by
  obtain ⟨tokens, hblank⟩ := gap
  show normalizedAll (tokens.map leafOf ++ ts) = normalizedAll ts
  induction tokens with
  | nil => rfl
  | cons t tokens ih =>
    have ht := normalizeNode_leafOf_of_isBlank (hspelled t (by simp)) (hblank t (by simp))
    rw [List.map_cons, List.cons_append, normalizedAll_cons, ht, List.nil_append]
    exact ih (fun u hu => hblank u (by simp [hu])) (fun u hu => hspelled u (by simp [hu]))

theorem normalizedAll_leafOf_cons {p : Token → Bool} [IsSolid p] (t : TokenOf p)
    (hspelled : t.1.IsSpelled) (ts : List Tree) :
    normalizedAll (leafOf t.1 :: ts) = leafOf t.1 :: normalizedAll ts := by
  have hkind : t.1.kind ≠ .blank := by
    have hblank := isBlank_eq_false t
    simpa [isBlank] using hblank
  have htrimmed := isTrimmed_of_admits hspelled hkind (kind_ne_endOfText t)
  have hkeep : normalizeNode (leafOf t.1) = .keep (leafOf t.1).label := by
    show (if (trim t.1.text.toList).isEmpty then Replacement.remove
      else .keep
        { (leafOf t.1).label with text := some (String.ofList (trim t.1.text.toList)) }) = _
    rw [trim_eq_self htrimmed, if_neg (by simpa using htrimmed.ne_nil), String.ofList_toList]
    rfl
  rw [normalizedAll_cons, hkeep]
  rfl

theorem normalizedAll_spanning_cons (tag : String) (children ts : List Tree) :
    normalizedAll (.spanning tag children :: ts) =
      (Tree.spanning tag children).normalize :: normalizedAll ts := by
  have htag : (Tree.spanning tag children).hasTag tag = true := by simp [hasTag, Tree.tag, spanning]
  exact normalizedAll_cons_of_hasTag htag ts

end Syntax

end NoteQuery
