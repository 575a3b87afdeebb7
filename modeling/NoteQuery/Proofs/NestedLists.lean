import NoteQuery.Proofs.LooseQueries
import NoteQuery.Proofs.PageReferences
import NoteQuery.Proofs.RoundTrip

/-!
# Lists written without white space inside their brackets

`Operand.text` writes a value as a person would: the items of a list stand between its brackets,
with a comma and a blank between neighbours. Words that stand side by side are read one by one if
each of them ends before the next begins (`readsAs_joined`). This goes wrong in one place only: two
opening brackets side by side open a page reference. So a list must not begin with a list or with a
page reference (`Operand.opensApart`), and a value without names, patterns and page references is
read back exactly if none does (`ofText_filterText_eq_ok_iff`).
-/

namespace NoteQuery.QueryText

open Text Syntax

/-! ## Words side by side -/

/-- The first word ends where the second one begins. -/
def Word.Apart (w v : Word) : Prop := ∀ d ∈ v.text.toList.head?, w.kind.EndsBefore w.text.toList d

/-- A word that is one token in front of whatever ends it. -/
def Word.Lexes (w : Word) : Prop :=
  ∃ c cs, w.text.toList = c :: cs ∧
    ∀ rest, (∀ d ∈ rest.head?, w.kind.EndsBefore (c :: cs) d) →
      Lexer.Scans c (cs ++ rest) ⟨w.kind, c :: cs, rest⟩

/-- The text of words that stand side by side. -/
def joined (ws : List Word) : List Char := ws.flatMap (fun w => w.text.toList)

@[simp] theorem joined_nil : joined [] = [] := rfl

@[simp] theorem joined_cons (w : Word) (ws : List Word) :
    joined (w :: ws) = w.text.toList ++ joined ws := rfl

@[simp] theorem joined_append (ws vs : List Word) : joined (ws ++ vs) = joined ws ++ joined vs :=
  List.flatMap_append

/-- A word that is one token at the end of a text is one in front of whatever ends it. -/
theorem lexes_of_scans {w : Word} {c : Char} {cs : List Char} (htext : w.text.toList = c :: cs)
    (h : Lexer.Scans c cs ⟨w.kind, c :: cs, []⟩) : w.Lexes := by
  refine ⟨c, cs, htext, fun rest hrest => ?_⟩
  obtain ⟨tail, htail, hscans⟩ := h.exchange hrest
  obtain rfl := (List.cons.inj htail).2
  exact hscans

theorem Word.IsLexeme.lexes {w : Word} (h : w.IsLexeme) : w.Lexes := by
  obtain ⟨c, cs, htext, -, hscan⟩ := h.exists_scan
  have hnothing := hscan [] nofun
  rw [List.append_nil] at hnothing
  exact lexes_of_scans htext (Lexer.scans_of_scan hnothing)

theorem lexes_blank : Word.blank.Lexes := by
  have hspace : Unicode.isBlank ' ' = true := by decide
  have hscans : Lexer.Scans ' ' [] _ := .blank hspace
  have hrun : Lexer.run .blank Unicode.isBlank [' '] = ⟨.blank, [' '], []⟩ := by
    simp [Lexer.run, hspace]
  rw [hrun] at hscans
  exact lexes_of_scans rfl hscans

/-- What words stand in front of begins like the first of them. -/
theorem head?_joined {v : Word} (hv : v.Lexes) (ws : List Word) :
    (joined (v :: ws)).head? = v.text.toList.head? := by
  obtain ⟨c, cs, htext, -⟩ := hv
  rw [joined, List.flatMap_cons, htext]
  rfl

/-- Words that each end before the next one begins are read one by one. -/
theorem readsAs_joined {ws : List Word} (hlexes : ∀ w ∈ ws, w.Lexes) (h : ws.IsChain Word.Apart) :
    ReadsAs (joined ws) ws := by
  induction ws with
  | nil => exact readsAs_nil
  | cons w ws ih =>
    obtain ⟨hw, hws⟩ := List.forall_mem_cons.1 hlexes
    obtain ⟨c, cs, htext, hscans⟩ := hw
    have hends : ∀ d ∈ (joined ws).head?, w.kind.EndsBefore (c :: cs) d := by
      cases ws with
      | nil => nofun
      | cons v ws =>
        rw [head?_joined (hws v List.mem_cons_self), ← htext]
        exact (List.isChain_cons_cons.1 h).1
    have hcons := ReadsAs.cons (hscans (joined ws) hends) (ih hws h.tail)
    have hword : String.ofList (c :: cs) = w.text := by rw [← htext, String.ofList_toList]
    rw [hword] at hcons
    rw [joined, List.flatMap_cons, htext]
    exact hcons

theorem kind_of_scans_bracket {cs : List Char} {l : Lexer.Lexeme} (h : Lexer.Scans '[' cs l) :
    l.kind = .pageRef ∨ (l.kind = .leftBracket ∧ ∀ d ∈ cs.head?, d ≠ '[') := by
  cases h with
  | pageRef => exact .inl rfl
  | leftBracket hcs => exact .inr ⟨rfl, hcs⟩
  | blank hc => exact absurd hc (by decide)
  | string hc => exact absurd hc (by decide)
  | operator hc => exact absurd hc (by decide)
  | number hc => exact absurd hc (by decide)
  | identifier hc => exact absurd hc (by decide)

/-- If nothing but two opening brackets can run into each other, and two do, then there is a page
reference among the tokens. -/
theorem exists_pageRef_of_brackets {ws : List Word} (hlexes : ∀ w ∈ ws, w.Lexes)
    (h : ws.IsChain (fun w v => w.Apart v ∨ (w = .leftBracket ∧ v = .leftBracket)))
    (hbrackets : [.leftBracket, .leftBracket] <:+: ws) {offset : Nat} {tokens : List Token}
    (htokens : Lexer.tokensFrom offset (joined ws) = .ok tokens) :
    ∃ t ∈ tokens, t.kind = .pageRef := by
  induction ws generalizing offset tokens with
  | nil => exact absurd (List.eq_nil_of_infix_nil hbrackets) (List.cons_ne_nil _ _)
  | cons w ws ih =>
    obtain ⟨hw, hws⟩ := List.forall_mem_cons.1 hlexes
    cases ws with
    | nil => exact absurd hbrackets.length_le (by simp)
    | cons v ws =>
      obtain ⟨hpair, hchain⟩ := List.isChain_cons_cons.1 h
      obtain ⟨c, cs, htext, hscans⟩ := hw
      have hjoined : joined (w :: v :: ws) = c :: (cs ++ joined (v :: ws)) := by
        rw [joined, List.flatMap_cons, htext]
        rfl
      rw [hjoined] at htokens
      obtain ⟨l, others, hl, hothers, rfl⟩ := Lexer.exists_of_tokensFrom_cons htokens
      rcases hpair with hapart | ⟨rfl, rfl⟩
      · -- the word is a token, so the brackets stand behind it
        have hends : ∀ d ∈ (joined (v :: ws)).head?, w.kind.EndsBefore (c :: cs) d := by
          rw [head?_joined (hws v List.mem_cons_self), ← htext]
          exact hapart
        obtain rfl := hl.unique (hscans _ hends)
        have hbehind : [.leftBracket, .leftBracket] <:+: v :: ws := by
          rcases List.infix_cons_iff.1 hbrackets with hpre | hinfix
          · obtain ⟨rfl, hrest⟩ := List.cons_prefix_cons.1 hpre
            obtain ⟨rfl, -⟩ := List.cons_prefix_cons.1 hrest
            exact absurd rfl (hapart '[' rfl)
          · exact hinfix
        obtain ⟨t, ht, hkind⟩ := ih hws hchain hbehind hothers
        exact ⟨t, List.mem_cons_of_mem _ ht, hkind⟩
      · refine ⟨_, List.mem_cons_self, ?_⟩
        have hopen : c :: (cs ++ joined (.leftBracket :: ws)) = '[' :: '[' :: joined ws :=
          hjoined.symm
        obtain ⟨rfl, hrest⟩ := List.cons.inj hopen
        rw [hrest] at hl
        -- a bracket of its own would not be followed by another one
        rcases kind_of_scans_bracket hl with hkind | ⟨-, hnot⟩
        · exact hkind
        · exact absurd rfl (hnot '[' rfl)

/-! ## How values are written -/

namespace Operand

mutual

/-- A value with no white space in it but a blank behind each comma. -/
def text : Operand → String
  | numeral n => n.word.text
  | bool b => if b then "true" else "false"
  | null => "null"
  | name n _ => n.text
  | quoted q => q.word.text
  | regex r => r.word.text
  | page p => p.word.text
  | list items => "[" ++ joinWith ", " (texts items) ++ "]"

def texts : List Operand → List String
  | [] => []
  | item :: items => item.text :: texts items

end

/-- Whether the text of a value begins with a bracket. -/
def startsWithBracket : Operand → Bool
  | page _ | list _ => true
  | _ => false

mutual

/-- Whether every opening bracket in a value stands apart from the next one. -/
def opensApart : Operand → Bool
  | list [] => true
  | list (item :: items) => !item.startsWithBracket && item.opensApart && allOpenApart items
  | _ => true

def allOpenApart : List Operand → Bool
  | [] => true
  | item :: items => item.opensApart && allOpenApart items

end

mutual

/-- Whether a value consists of numerals, truth values, null, quoted texts and lists. -/
def isPlain : Operand → Bool
  | name _ _ | regex _ | page _ => false
  | list items => allPlain items
  | _ => true

def allPlain : List Operand → Bool
  | [] => true
  | item :: items => item.isPlain && allPlain items

end

mutual

/-- The words of a value with the blanks that are written between them. -/
def layout : Operand → List Word
  | list [] => [.leftBracket, .rightBracket]
  | list (item :: items) =>
    .leftBracket :: (item.layout ++ (furtherLayout items ++ [.rightBracket]))
  | o => o.words

/-- Items of a list, each behind a comma and a blank. -/
def furtherLayout : List Operand → List Word
  | [] => []
  | item :: items => .comma :: .blank :: (item.layout ++ furtherLayout items)

end

mutual

theorem toList_text (o : Operand) : o.text.toList = joined o.layout := by
  match o with
  | numeral _ | name _ _ | quoted _ | regex _ | page _ | null | bool true | bool false =>
    simp [text, layout, words, Word.keyword, Name.word]
  | list [] => rfl
  | list (item :: items) =>
    rw [text, texts, layout, String.toList_append, String.toList_append, toList_joinWith,
      toList_text item, flatMap_texts items]
    simp [Word.leftBracket, Word.rightBracket]

theorem flatMap_texts (items : List Operand) :
    (texts items).flatMap (fun s => ", ".toList ++ s.toList) = joined (furtherLayout items) := by
  match items with
  | [] => rfl
  | item :: items =>
    rw [texts, List.flatMap_cons, furtherLayout, toList_text item, flatMap_texts items]
    simp [Word.comma, Word.blank]

end

/-! ## The words of a value -/

mutual

theorem lexes_of_mem_layout (o : Operand) : ∀ w ∈ o.layout, w.Lexes := by
  match o with
  | numeral _ | name _ _ | quoted _ | regex _ | page _ | null | bool _ =>
    exact fun w hw => (isLexeme_of_mem_words _ w hw).lexes
  | list [] => exact fun w hw => (isLexeme_of_mem_words (list []) w hw).lexes
  | list (item :: items) =>
    rw [layout, List.forall_mem_cons, List.forall_mem_append, List.forall_mem_append,
      List.forall_mem_singleton]
    exact ⟨isLexeme_leftBracket.lexes, item.lexes_of_mem_layout, lexes_of_mem_furtherLayout items,
      isLexeme_rightBracket.lexes⟩

theorem lexes_of_mem_furtherLayout (items : List Operand) : ∀ w ∈ furtherLayout items, w.Lexes := by
  match items with
  | [] =>
    rw [furtherLayout]
    nofun
  | item :: items =>
    rw [furtherLayout, List.forall_mem_cons, List.forall_mem_cons, List.forall_mem_append]
    exact ⟨isLexeme_comma.lexes, lexes_blank, item.lexes_of_mem_layout,
      lexes_of_mem_furtherLayout items⟩

end

mutual

/-- But for the blanks they are the words of the value. -/
theorem filter_layout (o : Operand) : o.layout.filter (· ≠ .blank) = o.words := by
  match o with
  | numeral _ | name _ _ | quoted _ | regex _ | page _ | null | bool _ => rfl
  | list [] => rfl
  | list (item :: items) =>
    rw [layout, words, List.filter_cons_of_pos (by decide), List.filter_append, List.filter_append,
      filter_layout item, filter_furtherLayout items]
    rfl

theorem filter_furtherLayout (items : List Operand) :
    (furtherLayout items).filter (· ≠ .blank) = furtherWords items := by
  match items with
  | [] => rfl
  | item :: items =>
    rw [furtherLayout, furtherWords, List.filter_cons_of_pos (by decide),
      List.filter_cons_of_neg (by decide), List.filter_append, filter_layout item,
      filter_furtherLayout items]

end

/-- A value that is no list is one word. -/
theorem exists_layout_eq_singleton (o : Operand) (h : ∀ items, o ≠ list items) :
    ∃ w, o.layout = [w] ∧ w.IsLexeme ∧
      (o.startsWithBracket = false → w.kind ≠ .leftBracket ∧ w.kind ≠ .pageRef) := by
  match o with
  | numeral n => exact ⟨n.word, rfl, n.isLexeme_word, fun _ => ⟨nofun, nofun⟩⟩
  | bool b =>
    refine ⟨_, rfl, isLexeme_of_mem_words (bool b) _ ?_, fun _ => ⟨nofun, nofun⟩⟩
    exact List.mem_singleton_self _
  | null => exact ⟨_, rfl, isLexeme_keyword (by decide), fun _ => ⟨nofun, nofun⟩⟩
  | name n _ => exact ⟨n.word, rfl, n.isLexeme_word, fun _ => ⟨nofun, nofun⟩⟩
  | quoted q => exact ⟨q.word, rfl, q.isLexeme_word, fun _ => ⟨nofun, nofun⟩⟩
  | regex r => exact ⟨r.word, rfl, r.isLexeme_word, fun _ => ⟨nofun, nofun⟩⟩
  | page p => exact ⟨p.word, rfl, p.isLexeme_word, nofun⟩
  | list items => exact absurd rfl (h items)

/-- The first word of a value, in front of the others. -/
theorem exists_layout_eq_cons (o : Operand) : ∃ w ws, o.layout = w :: ws ∧ w.IsLexeme ∧
    (o.startsWithBracket = false → w.kind ≠ .leftBracket ∧ w.kind ≠ .pageRef) ∧
    (o.startsWithBracket = true → o.isPlain = true → w = .leftBracket) := by
  by_cases h : ∃ items, o = list items
  · obtain ⟨items, rfl⟩ := h
    cases items with
    | nil => exact ⟨_, _, rfl, isLexeme_leftBracket, nofun, fun _ _ => rfl⟩
    | cons item items => exact ⟨_, _, by rw [layout], isLexeme_leftBracket, nofun, fun _ _ => rfl⟩
  · have hother : ∀ items, o ≠ list items := fun items hlist => h ⟨items, hlist⟩
    obtain ⟨w, hlayout, hw, hkind⟩ := o.exists_layout_eq_singleton hother
    refine ⟨w, [], hlayout, hw, hkind, fun hstarts hplain => ?_⟩
    -- besides lists only page references begin with a bracket
    cases o with
    | page p => cases hplain
    | list items => exact absurd rfl (hother items)
    | _ => cases hstarts

end Operand

/-! ## Which words stand apart -/

/-- Every word ends in front of a comma and in front of a closing bracket. -/
theorem apart_of_closing (w : Word) {v : Word} (hv : v = .comma ∨ v = .rightBracket) :
    w.Apart v := by
  have hclosing : ∀ c, c = ',' ∨ c = ']' → w.kind.EndsBefore w.text.toList c := by
    rintro c (rfl | rfl) <;> cases w.kind <;> simp [TokenKind.EndsBefore] <;> decide
  intro d hd
  rcases hv with rfl | rfl
  · obtain rfl := Option.some.inj hd
    exact hclosing ',' (.inl rfl)
  · obtain rfl := Option.some.inj hd
    exact hclosing ']' (.inr rfl)

/-- Every word but white space ends in front of a blank. -/
theorem apart_blank {w : Word} (hw : w.kind ≠ .blank) : w.Apart .blank := by
  intro d hd
  obtain rfl := Option.some.inj hd
  exact TokenKind.endsBefore_of_isBlank hw (by decide) _

theorem blank_apart {v : Word} (hv : v.IsLexeme) : Word.blank.Apart v := by
  obtain ⟨c, cs, htext, hblank, -⟩ := hv.exists_scan
  intro d hd
  rw [htext] at hd
  obtain rfl := Option.some.inj hd
  exact hblank

/-- Only a bracket or a page reference begins with an opening bracket. -/
theorem leftBracket_apart {v : Word} (hv : v.Lexes) (hbracket : v.kind ≠ .leftBracket)
    (hpage : v.kind ≠ .pageRef) : Word.leftBracket.Apart v := by
  obtain ⟨c, cs, htext, hscans⟩ := hv
  intro d hd
  rw [htext] at hd
  obtain rfl := Option.some.inj hd
  rintro rfl
  rcases kind_of_scans_bracket (hscans [] nofun) with hkind | ⟨hkind, -⟩
  · exact hpage hkind
  · exact hbracket hkind

namespace Operand

section

variable {R : Word → Word → Prop}

/-- What follows an item in a list: nothing, a comma or the closing bracket. -/
def FollowsItem (ws : List Word) : Prop := ∀ v ∈ ws.head?, v = .comma ∨ v = .rightBracket

theorem followsItem_furtherLayout (items : List Operand) {ws : List Word} (h : FollowsItem ws) :
    FollowsItem (furtherLayout items ++ ws) := by
  cases items with
  | nil => exact h
  | cons item items =>
    intro v hv
    obtain rfl := Option.some.inj hv
    exact .inl rfl

variable (R) in
/-- A value that keeps its opening brackets apart. A plain value need not do so if two of them may
stand side by side. -/
def Fits (o : Operand) : Prop :=
  o.opensApart = true ∨ (o.isPlain = true ∧ R .leftBracket .leftBracket)

variable (R) in
/-- Items behind the first one that keep their opening brackets apart, or need not. -/
def AllFit (items : List Operand) : Prop :=
  allOpenApart items = true ∨ (allPlain items = true ∧ R .leftBracket .leftBracket)

theorem AllFit.of_cons {item : Operand} {items : List Operand} (h : AllFit R (item :: items)) :
    Fits R item ∧ AllFit R items := by
  rcases h with hopens | ⟨hplain, hbrackets⟩
  · rw [allOpenApart, Bool.and_eq_true] at hopens
    exact ⟨.inl hopens.1, .inl hopens.2⟩
  · rw [allPlain, Bool.and_eq_true] at hplain
    exact ⟨.inr ⟨hplain.1, hbrackets⟩, .inr ⟨hplain.2, hbrackets⟩⟩

/-- A list that begins with a bracket inside is a plain one that need not keep it apart. -/
theorem Fits.of_list_cons {item : Operand} {items : List Operand}
    (h : Fits R (list (item :: items))) :
    Fits R item ∧ AllFit R items ∧
      (item.startsWithBracket = true → item.isPlain = true ∧ R .leftBracket .leftBracket) := by
  rcases h with hopens | ⟨hplain, hbrackets⟩
  · simp only [opensApart, Bool.and_eq_true, Bool.not_eq_true'] at hopens
    refine ⟨.inl hopens.1.2, .inl hopens.2, fun hstarts => ?_⟩
    rw [hopens.1.1] at hstarts
    cases hstarts
  · rw [isPlain, allPlain, Bool.and_eq_true] at hplain
    exact ⟨.inr ⟨hplain.1, hbrackets⟩, .inr ⟨hplain.2, hbrackets⟩, fun _ => ⟨hplain.1, hbrackets⟩⟩

mutual

/-- The words of a value stand apart if its opening brackets do. Otherwise only such brackets do
not, as long as there are no page references. -/
theorem isChain_layout (o : Operand) (hR : ∀ w v : Word, w.Apart v → R w v) (ho : Fits R o)
    {ws : List Word} (hws : ws.IsChain R) (hfollows : FollowsItem ws) :
    (o.layout ++ ws).IsChain R := by
  match o with
  | numeral _ | name _ _ | quoted _ | regex _ | page _ | null | bool _ =>
    exact hws.cons (fun v hv => hR _ v (apart_of_closing _ (hfollows v hv)))
  | list [] =>
    have hclosing : (Word.rightBracket :: ws).IsChain R :=
      hws.cons (fun v _ => hR _ v (fun _ _ => trivial))
    refine hclosing.cons (fun v hv => hR _ v (apart_of_closing _ (.inr ?_)))
    exact (Option.some.inj hv).symm
  | list (item :: items) =>
    have hclosing : (Word.rightBracket :: ws).IsChain R :=
      hws.cons (fun v _ => hR _ v (fun _ _ => trivial))
    have hends : FollowsItem (.rightBracket :: ws) := by
      intro v hv
      exact .inr (Option.some.inj hv).symm
    obtain ⟨hitem, hitems, hfirst⟩ := ho.of_list_cons
    have hinner :=
      item.isChain_layout hR hitem (isChain_furtherLayout items hR hitems hclosing hends)
      (followsItem_furtherLayout items hends)
    rw [layout, List.cons_append, List.append_assoc, List.append_assoc]
    refine List.IsChain.cons hinner (fun v hv => ?_)
    obtain ⟨w, rest, hlayout, hw, hkind, hbracket⟩ := item.exists_layout_eq_cons
    rw [hlayout] at hv
    obtain rfl := Option.some.inj hv
    cases hstarts : item.startsWithBracket with
    | false => exact hR _ _ (leftBracket_apart hw.lexes (hkind hstarts).1 (hkind hstarts).2)
    | true =>
      obtain ⟨hplain, hbrackets⟩ := hfirst hstarts
      rw [hbracket hstarts hplain]
      exact hbrackets

theorem isChain_furtherLayout (items : List Operand) (hR : ∀ w v : Word, w.Apart v → R w v)
    (ho : AllFit R items) {ws : List Word} (hws : ws.IsChain R) (hfollows : FollowsItem ws) :
    (furtherLayout items ++ ws).IsChain R := by
  match items with
  | [] => exact hws
  | item :: items =>
    obtain ⟨hitem, hitems⟩ := ho.of_cons
    have hinner := item.isChain_layout hR hitem
      (isChain_furtherLayout items hR hitems hws hfollows)
        (followsItem_furtherLayout items hfollows)
    rw [furtherLayout, List.cons_append, List.cons_append, List.append_assoc]
    refine List.IsChain.cons (List.IsChain.cons hinner (fun v hv => ?_)) (fun v hv => ?_)
    · obtain ⟨w, rest, hlayout, hw, -⟩ := item.exists_layout_eq_cons
      rw [hlayout] at hv
      obtain rfl := Option.some.inj hv
      exact hR _ _ (blank_apart hw)
    · exact hR _ _ (fun _ _ => trivial)

end

mutual

/-- In a plain value that does not keep its opening brackets apart two of them stand side by
side. -/
theorem brackets_infix_layout (o : Operand) (hplain : o.isPlain = true)
    (ho : o.opensApart = false) : [.leftBracket, .leftBracket] <:+: o.layout := by
  match o with
  | numeral _ | quoted _ | null | bool _ | list [] => cases ho
  | name _ _ | regex _ | page _ => cases hplain
  | list (item :: items) =>
    obtain ⟨hitem, hitems⟩ := Bool.and_eq_true_iff.1 hplain
    rw [layout]
    cases hstarts : item.startsWithBracket with
    | true =>
      obtain ⟨w, rest, hlayout, -, -, hbracket⟩ := item.exists_layout_eq_cons
      rw [hlayout, hbracket hstarts hitem]
      exact ⟨[], rest ++ (furtherLayout items ++ [.rightBracket]), rfl⟩
    | false =>
      cases hopens : item.opensApart with
      | false =>
        obtain ⟨front, behind, hinfix⟩ := item.brackets_infix_layout hitem hopens
        rw [← hinfix]
        exact ⟨.leftBracket :: front, behind ++ (furtherLayout items ++ [.rightBracket]), by simp⟩
      | true =>
        have hfurther : allOpenApart items = false := by
          simpa [opensApart, hstarts, hopens] using ho
        obtain ⟨front, behind, hinfix⟩ := brackets_infix_furtherLayout items hitems hfurther
        rw [← hinfix]
        exact ⟨.leftBracket :: (item.layout ++ front), behind ++ [.rightBracket], by simp⟩

theorem brackets_infix_furtherLayout (items : List Operand) (hplain : allPlain items = true)
    (ho : allOpenApart items = false) : [.leftBracket, .leftBracket] <:+: furtherLayout items := by
  match items with
  | [] => cases ho
  | item :: items =>
    obtain ⟨hitem, hitems⟩ := Bool.and_eq_true_iff.1 hplain
    rw [furtherLayout]
    cases hopens : item.opensApart with
    | false =>
      obtain ⟨front, behind, hinfix⟩ := item.brackets_infix_layout hitem hopens
      rw [← hinfix]
      exact ⟨.comma :: .blank :: front, behind ++ furtherLayout items, by simp⟩
    | true =>
      have hfurther : allOpenApart items = false := by
        simpa [allOpenApart, hopens] using ho
      obtain ⟨front, behind, hinfix⟩ := brackets_infix_furtherLayout items hitems hfurther
      rw [← hinfix]
      exact ⟨.comma :: .blank :: (item.layout ++ front), behind, by simp⟩

end

end

mutual

theorem lacksPages_value (o : Operand) (h : o.isPlain = true) : o.value.LacksPages := by
  match o with
  | numeral _ | bool _ | null | quoted _ => intro page; simp [value, Value.parts]
  | name _ _ | regex _ | page _ => cases h
  | list items =>
    rw [value, Value.lacksPages_list_iff]
    exact lacksPages_values items h

theorem lacksPages_values (items : List Operand) (h : allPlain items = true) :
    ∀ x ∈ values items, x.LacksPages := by
  match items with
  | [] => nofun
  | item :: items =>
    obtain ⟨hitem, hitems⟩ := Bool.and_eq_true_iff.1 h
    rw [values, List.forall_mem_cons]
    exact ⟨item.lacksPages_value hitem, lacksPages_values items hitems⟩

end

end Operand

/-! ## Filters with such a value -/

section

variable (table field : Name) (c : Comparison) (o : Operand)

/-- The text of a query with one filter. -/
def filterText : String :=
  table.text ++ " where " ++ field.text ++ " " ++ c.symbol ++ " " ++ o.text

def filterWords : List Word :=
  table.word :: .blank :: Connective.whereWord.word :: .blank :: field.word :: .blank ::
    comparisonWord c :: .blank :: o.layout

theorem text_comparisonWord : (comparisonWord c).text = c.symbol := by
  rw [comparisonWord]
  split <;> rfl

theorem toList_filterText :
    (filterText table field c o).toList = joined (filterWords table field c o) := by
  simp only [filterText, filterWords, joined_cons, String.toList_append, o.toList_text,
    text_comparisonWord]
  simp [Name.word, Word.blank, Connective.word, Word.keyword]

theorem lexes_of_mem_filterWords : ∀ w ∈ filterWords table field c o, w.Lexes := by
  simp only [filterWords, List.forall_mem_cons]
  exact ⟨table.isLexeme_word.lexes, lexes_blank, (isLexeme_keyword (by decide)).lexes, lexes_blank,
    field.isLexeme_word.lexes, lexes_blank, (isLexeme_comparisonWord c).lexes, lexes_blank,
    o.lexes_of_mem_layout⟩

variable {R : Word → Word → Prop}

/-- A blank keeps any two words apart. -/
theorem isChain_blank (hR : ∀ w v : Word, w.Apart v → R w v) {w v : Word} {ws : List Word}
    (hw : w.kind ≠ .blank) (hv : v.IsLexeme) (h : (v :: ws).IsChain R) :
    (w :: .blank :: v :: ws).IsChain R := by
  rw [List.isChain_cons_cons, List.isChain_cons_cons]
  exact ⟨hR _ _ (apart_blank hw), hR _ _ (blank_apart hv), h⟩

theorem isChain_filterWords (hR : ∀ w v : Word, w.Apart v → R w v)
    (ho : o.Fits R) : (filterWords table field c o).IsChain R := by
  have hlayout := o.isChain_layout hR ho .nil nofun
  obtain ⟨w, ws, hcons, hw, -⟩ := o.exists_layout_eq_cons
  rw [List.append_nil, hcons] at hlayout
  have hcomparison : (comparisonWord c).kind ≠ .blank := by
    rw [comparisonWord]
    split <;> nofun
  rw [filterWords, hcons]
  apply isChain_blank hR (by rintro ⟨⟩) (isLexeme_keyword (by decide))
  apply isChain_blank hR (by rintro ⟨⟩) field.isLexeme_word
  apply isChain_blank hR (by rintro ⟨⟩) (isLexeme_comparisonWord c)
  exact isChain_blank hR hcomparison hw hlayout

/-- Tokens spell their words but for the white space, up to white space at the end. -/
theorem exists_spells (tokens : List Token) : ∃ (front : List Token) (gap : Gap),
    tokens = front ++ gap.tokens ∧
      Spells (fun _ => True) front ((tokens.map Token.word).filter (· ≠ .blank)) := by
  induction tokens with
  | nil => exact ⟨[], ⟨[], List.forall_mem_nil _⟩, rfl, .nil⟩
  | cons t tokens ih =>
    obtain ⟨front, gap, rfl, hspells⟩ := ih
    rw [List.map_cons]
    by_cases ht : t.word = .blank
    · have hblank : Syntax.isBlank t = true := by
        have hkind : t.kind = .blank := congrArg Word.kind ht
        simp [Syntax.isBlank, hkind]
      rw [List.filter_cons_of_neg (by simp [ht])]
      generalize (List.map Token.word (front ++ gap.tokens)).filter (· ≠ .blank) = ws at hspells ⊢
      -- the white space belongs to the next word, if there is one
      cases hspells with
      | nil => exact ⟨[], ⟨t :: gap.tokens, List.forall_mem_cons.2 ⟨hblank, gap.isBlank_of_mem⟩⟩,
        rfl, .nil⟩
      | @cons gap' u rest w ws hgap hu hrest =>
        let wider : Gap := ⟨t :: gap'.tokens, List.forall_mem_cons.2 ⟨hblank, gap'.isBlank_of_mem⟩⟩
        exact ⟨wider.tokens ++ u :: rest, gap, rfl, .cons trivial hu hrest⟩
    · rw [List.filter_cons_of_pos (by simp [ht])]
      let none : Gap := ⟨[], List.forall_mem_nil _⟩
      exact ⟨none.tokens ++ t :: front, gap, rfl, .cons trivial rfl hspells⟩

/-- A filter whose value keeps its opening brackets apart is read back. -/
theorem ofText_filterText_of_opensApart (ho : o.opensApart = true) :
    Query.ofText (filterText table field c o) =
      .ok { table := table.text, filters := [⟨c, field.text, o.value⟩] } := by
  have hchain := isChain_filterWords table field c o (fun _ _ hapart => hapart) (.inl ho)
  obtain ⟨tokens, finish, htokens, hfinish, hwords⟩ :=
    readsAs_joined (lexes_of_mem_filterWords table field c o) hchain 0
  obtain ⟨tableToken, tokens, rfl, htable, hwords⟩ := List.map_eq_cons_iff.1 hwords
  obtain ⟨space, tokens, rfl, hspace, hwords⟩ := List.map_eq_cons_iff.1 hwords
  obtain ⟨whereToken, tokens, rfl, hwhere, hwords⟩ := List.map_eq_cons_iff.1 hwords
  obtain ⟨front, trail, rfl, hspells⟩ := exists_spells tokens
  have hfilter :
      (Word.blank :: field.word :: .blank :: comparisonWord c :: .blank :: o.layout).filter
        (· ≠ .blank) = field.word :: comparisonWord c :: o.words := by
    have hfield : field.word ≠ .blank := by rintro ⟨⟩
    have hcomparison : comparisonWord c ≠ .blank := by cases c <;> decide
    rw [List.filter_cons_of_neg (by simp), List.filter_cons_of_pos (by simpa using hfield),
      List.filter_cons_of_neg (by simp), List.filter_cons_of_pos (by simpa using hcomparison),
      List.filter_cons_of_neg (by simp), o.filter_layout]
  rw [hwords, hfilter] at hspells
  obtain ⟨gap, f, rfl, hf⟩ := exists_filterPhrase hspells
  have hblank : Syntax.isBlank space = true := by
    have hkind : space.kind = .blank := congrArg Word.kind hspace
    simp [Syntax.isBlank, hkind]
  let connective : Syntax.Connective := ⟨⟨whereToken, Connective.isConnective_of_word hwhere⟩, gap⟩
  let phrase : SpacedClause :=
    ⟨⟨[space], List.forall_mem_singleton.2 hblank⟩, List.cons_ne_nil _ _,
      .filter (some connective) f⟩
  let query : QueryPhrase := ⟨⟨tableToken, Name.isName_of_word htable⟩, [phrase], .singleton _⟩
  let p : Program := ⟨⟨[], List.forall_mem_nil _⟩, query, trail, ⟨finish, by simp [hfinish]⟩⟩
  have hp : tokenize (filterText table field c o) = .ok p.tokens := by
    rw [tokenize, toList_filterText, htokens]
    simp [p, query, phrase, connective, Program.tokens, QueryPhrase.tokens, SpacedClause.tokens,
      Syntax.Clause.tokens]
  -- the clause expresses the filter, so the derivation means the query
  let asked : QueryText := ⟨table, [.filter .whereWord field c o]⟩
  have hexpress : ExpressAll [phrase] asked.clauses :=
    .cons ⟨congrArg some hf, rfl, rfl, rfl, rfl, rfl⟩ .nil
  have hmeaning : query.meaning = .ok asked.query := asked.meaning_eq_ok_query htable hexpress
  exact Query.ofText_eq_ok_iff.2 ⟨p, hp, hmeaning⟩

/-- A filter whose plain value does not keep its opening brackets apart is not read back. -/
theorem ofText_filterText_ne (hplain : o.isPlain = true) (ho : o.opensApart = false) :
    Query.ofText (filterText table field c o) ≠
      .ok { table := table.text, filters := [⟨c, field.text, o.value⟩] } := by
  intro h
  obtain ⟨p, hp, hmeaning⟩ := Query.ofText_eq_ok_iff.1 h
  have hchain := isChain_filterWords table field c o
    (R := fun w v => w.Apart v ∨ (w = .leftBracket ∧ v = .leftBracket))
    (fun _ _ hapart => .inl hapart) (.inr ⟨hplain, .inr ⟨rfl, rfl⟩⟩)
  have hbrackets : [.leftBracket, .leftBracket] <:+: filterWords table field c o := by
    refine (o.brackets_infix_layout hplain ho).trans ?_
    exact ⟨[table.word, .blank, Connective.whereWord.word, .blank, field.word, .blank,
      comparisonWord c, .blank], [], by simp [filterWords]⟩
  rw [tokenize, toList_filterText] at hp
  obtain ⟨t, ht, hkind⟩ := exists_pageRef_of_brackets (lexes_of_mem_filterWords table field c o)
    hchain hbrackets hp
  refine p.holdsNoPage hmeaning ?_ rfl t ht hkind
  exact List.forall_mem_singleton.2 (o.lacksPages_value hplain)

/-- **Lists are read back if their opening brackets stand apart.** A filter on a value of numerals,
truth values, null, quoted texts and lists is read as this filter, and as nothing else in the query,
exactly if no list in the value begins with a list. -/
theorem ofText_filterText_eq_ok_iff (hplain : o.isPlain = true) :
    Query.ofText (filterText table field c o) =
        .ok { table := table.text, filters := [⟨c, field.text, o.value⟩] } ↔
      o.opensApart = true := by
  constructor
  · intro h
    by_contra hnot
    exact ofText_filterText_ne table field c o hplain (Bool.eq_false_iff.2 hnot) h
  · exact ofText_filterText_of_opensApart table field c o

end

/-- The table of the queries below, with the field `fieldX` and the item `one`. -/
def tableT : Name := ⟨'t', [], by decide, nofun, by decide⟩

def fieldX : Name := ⟨'x', [], by decide, nofun, by decide⟩

def one : Operand :=
  .numeral ⟨false, ['1'], none, ⟨by decide, List.forall_mem_singleton.2 (by decide)⟩, nofun⟩

/-- Lists behind the first item. -/
theorem ofText_filterText_eq_ok_iff_innerLists :
    (Operand.list [one, .list [.bool true, .list []], .list []]).isPlain = true ∧
    Query.ofText "t where x = [1, [true, []], []]" = .ok
      { table := "t"
        filters := [⟨.equal, "x",
          (Operand.list [one, .list [.bool true, .list []], .list []]).value⟩] } := by
  refine ⟨rfl, ?_⟩
  exact (ofText_filterText_eq_ok_iff tableT fieldX .equal
    (.list [one, .list [.bool true, .list []], .list []]) rfl).2 rfl

/-- A list that consists of a list with one item is written like a reference to a page, and it is
read as one. -/
theorem not_ofText_filterText_nestedFirst :
    filterText tableT fieldX .equal (.list [.list [one]]) = "t where x = [[1]]" ∧
    Query.ofText "t where x = [[1]]" =
      .ok { table := "t", filters := [⟨.equal, "x", .pageRef "1"⟩] } ∧
    Query.ofText "t where x = [[1]]" ≠
      .ok { table := "t", filters := [⟨.equal, "x", (Operand.list [.list [one]]).value⟩] } := by
  have hpage : Query.ofText "t where x = [[1]]" =
      .ok { table := "t", filters := [⟨.equal, "x", .pageRef "1"⟩] } :=
    ofText_filterText_of_opensApart tableT fieldX .equal
      (.page ⟨['1'], by decide, by decide, by simp⟩) rfl
  refine ⟨rfl, hpage, ?_⟩
  rw [hpage]
  rintro ⟨⟩

end NoteQuery.QueryText
