import NoteQuery.Proofs.Normalization

/-!
# Where tokens end

Whether a token ends at a place is decided by the character behind it: a name ends where the next
character does not continue it, a number where neither a digit nor a point follows, an operator of
one sign where the next sign does not belong to a longer one. `TokenKind.EndsBefore` says so for
each kind.

What follows a token can be exchanged for anything that begins with such a character
(`Lexer.Scans.exchange`). White space ends every token but white space
(`TokenKind.endsBefore_of_isBlank`), and what follows a token in a text does
(`Lexer.Scans.endsBefore`), but for a point behind a number, with which no token begins.
-/

namespace NoteQuery

open Unicode Lexer

/-- A token of a kind and a text ends if a character follows it. -/
def TokenKind.EndsBefore (kind : TokenKind) (text : List Char) (c : Char) : Prop :=
  match kind with
  | .identifier => continuesName c = false
  | .number => isAsciiDigit c = false ∧ c ≠ '.'
  | .operator =>
    (text = ['='] ∨ text = ['!', '='] → c ≠ '~') ∧ (text = ['<'] ∨ text = ['>'] → c ≠ '=')
  | .leftBracket => c ≠ '['
  | .blank => isBlank c = false
  | .string | .regex | .pageRef | .rightBracket | .comma | .endOfText => True

/-- White space ends a token that is no white space. -/
theorem TokenKind.endsBefore_of_isBlank {kind : TokenKind} (hkind : kind ≠ .blank) {c : Char}
    (hc : isBlank c = true) (text : List Char) : kind.EndsBefore text c := by
  have hne : ∀ {d}, isBlank d = false → c ≠ d := by
    rintro d hd rfl
    rw [hc] at hd
    cases hd
  cases kind with
  | identifier =>
    refine Bool.eq_false_iff.2 (fun h => ?_)
    rw [isBlank_of_continuesName h] at hc
    cases hc
  | number =>
    refine ⟨Bool.eq_false_iff.2 (fun h => ?_), hne (by decide)⟩
    rw [isBlank_of_isAsciiDigit h] at hc
    cases hc
  | operator => exact ⟨fun _ => hne (by decide), fun _ => hne (by decide)⟩
  | leftBracket => exact hne (d := '[') (by decide)
  | blank => exact absurd rfl hkind
  | string | regex | pageRef | rightBracket | comma | endOfText => trivial

namespace Lexer

/-! ## Runs and literals -/

theorem run_exchange (kind : TokenKind) {p : Char → Bool} (cs : List Char) {other : List Char}
    (hother : ∀ d ∈ other.head?, p d = false) :
    run kind p (cs.takeWhile p ++ other) = ⟨kind, cs.takeWhile p, other⟩ := by
  have hrun : ∀ c ∈ cs.takeWhile p, p c = true := fun c hc => List.mem_takeWhile_imp hc
  obtain ⟨htake, hdrop⟩ := takeWhile_dropWhile_append hrun hother
  rw [run, htake, hdrop]

theorem closedBy_exchange {close : Char} {oneLine : Bool} {cs text rest : List Char}
    (h : closedBy close oneLine cs = some (text, rest)) (other : List Char) :
    closedBy close oneLine (text ++ other) = some (text, other) := by
  fun_induction closedBy close oneLine cs generalizing text rest with
  | case1 => simp at h
  | case2 cs =>
    obtain ⟨rfl, rfl⟩ := Prod.mk.inj (Option.some.inj h)
    unfold closedBy
    exact if_pos rfl
  | case3 => simp at h
  | case4 d ds hclose ih =>
    obtain ⟨⟨inner, rest'⟩, hinner, he⟩ := Option.map_eq_some_iff.1 h
    obtain ⟨rfl, rfl⟩ := Prod.mk.inj he
    rw [List.cons_append, List.cons_append]
    unfold closedBy
    rw [if_neg hclose, if_pos rfl]
    dsimp only
    rw [ih hinner]
    rfl
  | case5 => simp at h
  | case6 c cs hclose hescape hline ih =>
    obtain ⟨⟨inner, rest'⟩, hinner, he⟩ := Option.map_eq_some_iff.1 h
    obtain ⟨rfl, rfl⟩ := Prod.mk.inj he
    rw [List.cons_append]
    unfold closedBy
    rw [if_neg hclose, if_neg hescape, if_neg hline, ih hinner]
    rfl

theorem closedByBrackets_exchange {cs text rest : List Char}
    (h : closedByBrackets cs = some (text, rest)) (other : List Char) :
    closedByBrackets (text ++ other) = some (text, other) := by
  fun_induction closedByBrackets cs generalizing text rest with
  | case1 => simp at h
  | case2 cs =>
    obtain ⟨rfl, rfl⟩ := Prod.mk.inj (Option.some.inj h)
    rfl
  | case3 => simp at h
  | case4 c cs hopen hline ih =>
    obtain ⟨⟨inner, rest'⟩, hinner, he⟩ := Option.map_eq_some_iff.1 h
    obtain ⟨rfl, rfl⟩ := Prod.mk.inj he
    rw [List.cons_append, closedByBrackets]
    · rw [if_neg hline, ih hinner]
      rfl
    · -- two brackets here would have been the end before
      rintro more rfl heq
      obtain ⟨body, rfl⟩ := exists_of_closedByBrackets hinner
      have hcs := closedByBrackets_append hinner
      cases body with
      | nil => exact hopen _ rfl hcs.symm
      | cons d body =>
        obtain rfl := (List.cons.inj heq).1
        exact hopen _ rfl hcs.symm

/-! ## Numbers -/

/-- A numeral in front of what ends it. -/
theorem numeral_append_other {whole : List Char} {fraction : Option (List Char)}
    (hwhole : ∀ c ∈ whole, isAsciiDigit c = true) (hfraction : ∀ digits ∈ fraction, IsDigits digits)
    {other : List Char} (hother : ∀ d ∈ other.head?, isAsciiDigit d = false ∧ d ≠ '.') :
    numeral (whole ++ (fraction.elim [] (fun digits => '.' :: digits) ++ other)) =
      (whole ++ fraction.elim [] (fun digits => '.' :: digits), other) := by
  have hstop : ∀ d ∈ other.head?, isAsciiDigit d = false := fun d hd => (hother d hd).1
  cases fraction with
  | none =>
    obtain ⟨htake, hdrop⟩ := takeWhile_dropWhile_append hwhole hstop
    rw [Option.elim_none, List.nil_append, List.append_nil, numeral, htake, hdrop]
    split
    · exact absurd rfl (hother '.' rfl).2
    · rfl
  | some digits =>
    have hdigits := hfraction digits rfl
    obtain ⟨d, ds, rfl⟩ := List.exists_cons_of_ne_nil hdigits.ne_nil
    have hpoint : ∀ c ∈ ('.' :: (d :: ds ++ other)).head?, isAsciiDigit c = false := by
      rintro c ⟨⟩
      decide
    obtain ⟨htake, hdrop⟩ := takeWhile_dropWhile_append hwhole hpoint
    obtain ⟨htake', hdrop'⟩ := takeWhile_dropWhile_append hdigits.isAsciiDigit_of_mem hstop
    rw [Option.elim_some, List.cons_append, numeral, htake, hdrop]
    show (if isAsciiDigit d = true then
      (whole ++ '.' :: (d :: ds ++ other).takeWhile isAsciiDigit,
        (d :: ds ++ other).dropWhile isAsciiDigit)
      else (whole, '.' :: (d :: ds ++ other))) = _
    rw [if_pos (hdigits.isAsciiDigit_of_mem d (List.mem_cons_self ..)), htake', hdrop']

/-- A numeral is digits with an optional fraction, and no digit follows it. -/
theorem exists_of_numeral (cs : List Char) :
    ∃ (whole : List Char) (fraction : Option (List Char)),
      (numeral cs).1 = whole ++ fraction.elim [] (fun digits => '.' :: digits) ∧
      (∀ c ∈ whole, isAsciiDigit c = true) ∧ (∀ digits ∈ fraction, IsDigits digits) ∧
      ∀ d ∈ (numeral cs).2.head?, isAsciiDigit d = false := by
  have hwhole : ∀ c ∈ cs.takeWhile isAsciiDigit, isAsciiDigit c = true :=
    fun c hc => List.mem_takeWhile_imp hc
  have hstop :
      ∀ ds : List Char, ∀ d ∈ (ds.dropWhile isAsciiDigit).head?, isAsciiDigit d = false := by
    intro ds d hd
    have hnot := List.head?_dropWhile_not isAsciiDigit ds
    rw [hd] at hnot
    simpa using hnot
  have hcs := hstop cs
  unfold numeral
  dsimp only
  split
  · rename_i d rest hrest
    split
    · rename_i hd
      refine ⟨_, some ((d :: rest).takeWhile isAsciiDigit), rfl, hwhole, ?_, hstop (d :: rest)⟩
      rintro digits ⟨⟩
      exact isDigits_takeWhile hd rest
    · exact ⟨_, none, (List.append_nil _).symm, hwhole, nofun, hcs⟩
  · exact ⟨_, none, (List.append_nil _).symm, hwhole, nofun, hcs⟩

theorem numeral_exchange (cs : List Char) {other : List Char}
    (hother : ∀ d ∈ other.head?, isAsciiDigit d = false ∧ d ≠ '.') :
    numeral ((numeral cs).1 ++ other) = ((numeral cs).1, other) := by
  obtain ⟨whole, fraction, heq, hwhole, hfraction, -⟩ := exists_of_numeral cs
  rw [heq, List.append_assoc]
  exact numeral_append_other hwhole hfraction hother

/-- A digit at the front of a text belongs to its numeral. -/
theorem exists_numeral_eq_cons {c : Char} (hc : isAsciiDigit c = true) (cs : List Char) :
    ∃ tail, (numeral (c :: cs)).1 = c :: tail := by
  have hne : (numeral (c :: cs)).1 ≠ [] := numeral_ne_nil hc
  obtain ⟨d, tail, htail⟩ := List.exists_cons_of_ne_nil hne
  have happend := numeral_append (c :: cs)
  rw [htail, List.cons_append] at happend
  exact ⟨tail, by rw [htail, (List.cons.inj happend).1]⟩

/-! ## Operators -/

theorem operator_exchange {c : Char} {cs : List Char} {l : Lexeme}
    (hc : c = '=' ∨ c = '!' ∨ c = '<' ∨ c = '>') (h : operator c cs = .ok l) {other : List Char}
    (hother : ∀ d ∈ other.head?, TokenKind.operator.EndsBefore l.text d) :
    l.kind = .operator ∧
    ∃ tail, l.text = c :: tail ∧ operator c (tail ++ other) = .ok ⟨.operator, l.text, other⟩ := by
  unfold operator at h
  split at h
  · obtain rfl := Except.ok.inj h
    exact ⟨rfl, ['~'], rfl, rfl⟩
  · obtain rfl := Except.ok.inj h
    exact ⟨rfl, ['=', '~'], rfl, rfl⟩
  · obtain rfl := Except.ok.inj h
    refine ⟨rfl, ['='], rfl, ?_⟩
    cases other with
    | nil => rfl
    | cons d other =>
      have hd : d ≠ '~' := (hother d rfl).1 (.inr rfl)
      simp [operator, hd]
  · cases h
  · obtain rfl := Except.ok.inj h
    exact ⟨rfl, ['='], rfl, rfl⟩
  · obtain rfl := Except.ok.inj h
    exact ⟨rfl, ['='], rfl, rfl⟩
  · rename_i hbang _ _ _ _ _
    obtain rfl := Except.ok.inj h
    refine ⟨rfl, [], rfl, ?_⟩
    cases other with
    | nil => rcases hc with rfl | rfl | rfl | rfl <;> first | rfl | exact absurd rfl hbang
    | cons d other =>
      have hends := hother d rfl
      rcases hc with rfl | rfl | rfl | rfl
      · have hd : d ≠ '~' := hends.1 (.inl rfl)
        simp [operator, hd]
      · exact absurd rfl hbang
      · have hd : d ≠ '=' := hends.2 (.inl rfl)
        simp [operator, hd]
      · have hd : d ≠ '=' := hends.2 (.inr rfl)
        simp [operator, hd]

/-- An operator takes in every sign that belongs to it. -/
theorem endsBefore_of_operator {c : Char} {cs : List Char} {l : Lexeme} (h : operator c cs = .ok l)
    {d : Char} (hd : d ∈ l.rest.head?) : TokenKind.operator.EndsBefore l.text d := by
  unfold operator at h
  split at h
  · obtain rfl := Except.ok.inj h
    exact ⟨by simp, by simp⟩
  · obtain rfl := Except.ok.inj h
    exact ⟨by simp, by simp⟩
  · rename_i rest hlonger
    obtain rfl := Except.ok.inj h
    refine ⟨fun _ => ?_, by simp⟩
    rintro rfl
    obtain ⟨more, rfl⟩ := List.head?_eq_some_iff.1 hd
    exact hlonger more rfl
  · cases h
  · obtain rfl := Except.ok.inj h
    exact ⟨by simp, by simp⟩
  · obtain rfl := Except.ok.inj h
    exact ⟨by simp, by simp⟩
  · rename_i hbang hequal _ _ hless hgreater
    obtain rfl := Except.ok.inj h
    obtain ⟨more, rfl⟩ := List.head?_eq_some_iff.1 hd
    constructor
    · rintro (hc | hc) rfl
      · exact hequal more (List.head_eq_of_cons_eq hc) rfl
      · simp at hc
    · rintro (hc | hc) rfl
      · exact hless more (List.head_eq_of_cons_eq hc) rfl
      · exact hgreater more (List.head_eq_of_cons_eq hc) rfl

/-! ## Tokens -/

/-- Characters that begin something else than an identifier or a numeral. -/
def delimiters : List Char := ['"', '\'', '/', '[', ']', ',', '=', '!', '<', '>']

theorem scan_of_not_mem_delimiters {c : Char} (hblank : isBlank c = false) (hc : c ∉ delimiters)
    (cs : List Char) :
    scan c cs =
      if c = '-' ∧ digitFollows cs then .ok (signedNumeral [c] cs)
      else if isAsciiDigit c then .ok (signedNumeral [] (c :: cs))
      else if startsName c then .ok (run .identifier continuesName (c :: cs))
      else .error (.unexpected c) := by
  simp only [delimiters, List.mem_cons, List.not_mem_nil, or_false, not_or] at hc
  obtain ⟨hdouble, hsingle, hslash, hopen, hclose, hcomma, hequal, hbang, hless, hgreater⟩ := hc
  unfold scan
  rw [if_neg (by simp [hblank]), if_neg (by simp [hdouble, hsingle]), if_neg hslash, if_neg hopen,
    if_neg hclose, if_neg hcomma, if_neg (by simp [hequal, hbang, hless, hgreater])]

theorem not_mem_delimiters {p : Char → Bool} (hp : delimiters.any p = false) {c : Char}
    (hc : p c = true) : c ∉ delimiters := by
  intro hmem
  exact List.any_eq_false.1 hp c hmem hc

theorem isAsciiDigit_of_startsName {c : Char} (h : startsName c = true) :
    isAsciiDigit c = false := by
  by_contra hdigit
  have hcategory := category_of_isAsciiDigit (by simpa using hdigit)
  have hletter : isAlphabetic c = false := by
    rw [isAlphabetic, hcategory]
    rfl
  simp only [startsName, hletter, Bool.false_or, Bool.or_eq_true, beq_iff_eq] at h
  rcases h with rfl | rfl <;> exact hdigit (by decide)

theorem Scans.scan_eq {c : Char} {cs : List Char} {l : Lexeme} (h : Scans c cs l) :
    scan c cs = .ok l := by
  cases h with
  | blank hc =>
    unfold scan
    rw [if_pos hc]
  | string hc hclosed =>
    have hblank : isBlank c = false := by rcases hc with rfl | rfl <;> decide
    unfold scan
    rw [if_neg (by simp [hblank]), if_pos hc, hclosed]
    rfl
  | regex hclosed =>
    unfold scan
    rw [if_neg (by decide), if_neg (by decide), if_pos rfl, hclosed]
    rfl
  | pageRef hclosed =>
    unfold scan
    rw [if_neg (by decide), if_neg (by decide), if_neg (by decide), if_pos rfl]
    simp only [hclosed]
    rfl
  | leftBracket hcs =>
    unfold scan
    rw [if_neg (by decide), if_neg (by decide), if_neg (by decide), if_pos rfl]
    split
    · exact absurd rfl (hcs '[' rfl)
    · rfl
  | rightBracket => rfl
  | comma => rfl
  | operator hc h => rcases hc with rfl | rfl | rfl | rfl <;> exact h
  | negative hd =>
    exact (scan_of_not_mem_delimiters (by decide) (by decide) _).trans (if_pos ⟨rfl, hd⟩)
  | number hc =>
    have hminus : c ≠ '-' := by
      rintro rfl
      exact absurd hc (by decide)
    rw [scan_of_not_mem_delimiters (isBlank_of_isAsciiDigit hc)
      (not_mem_delimiters (p := isAsciiDigit) (by decide) hc), if_neg (by simp [hminus]), if_pos hc]
  | identifier hc =>
    have hminus : c ≠ '-' := by
      rintro rfl
      exact absurd hc (by decide)
    rw [scan_of_not_mem_delimiters (isBlank_of_continuesName (continuesName_of_startsName hc))
      (not_mem_delimiters (p := startsName) (by decide) hc), if_neg (by simp [hminus]),
      if_neg (by simp [isAsciiDigit_of_startsName hc]), if_pos hc]

/-- What follows a token can be exchanged for anything that ends it. -/
theorem Scans.exchange {c : Char} {cs : List Char} {l : Lexeme} (h : Scans c cs l)
    {other : List Char} (hother : ∀ d ∈ other.head?, l.kind.EndsBefore l.text d) :
    ∃ tail, l.text = c :: tail ∧ Scans c (tail ++ other) ⟨l.kind, l.text, other⟩ := by
  cases h with
  | blank hc =>
    have htext : (c :: cs).takeWhile isBlank = c :: cs.takeWhile isBlank := by simp [hc]
    have hrun := run_exchange .blank (c :: cs) hother
    rw [htext, List.cons_append] at hrun
    exact ⟨_, htext, by rw [run, htext, ← hrun]; exact .blank hc⟩
  | string hc hclosed => exact ⟨_, rfl, .string hc (closedBy_exchange hclosed other)⟩
  | regex hclosed => exact ⟨_, rfl, .regex (closedBy_exchange hclosed other)⟩
  | pageRef hclosed => exact ⟨_, rfl, .pageRef (closedByBrackets_exchange hclosed other)⟩
  | leftBracket => exact ⟨[], rfl, .leftBracket hother⟩
  | rightBracket => exact ⟨[], rfl, .rightBracket⟩
  | comma => exact ⟨[], rfl, .comma⟩
  | operator hc h =>
    obtain ⟨hkind, -⟩ := exists_of_operator hc h
    rw [hkind] at hother ⊢
    obtain ⟨-, tail, htext, hoperator⟩ := operator_exchange hc h hother
    exact ⟨tail, htext, .operator hc hoperator⟩
  | @negative d cs hd =>
    obtain ⟨tail, htail⟩ := exists_numeral_eq_cons hd cs
    have hnumeral := numeral_exchange (d :: cs) hother
    have hscans : Scans '-' (d :: (tail ++ other)) _ := .negative hd
    rw [htail, List.cons_append] at hnumeral
    rw [signedNumeral, hnumeral] at hscans
    rw [signedNumeral, htail]
    exact ⟨_, rfl, hscans⟩
  | number hc =>
    obtain ⟨tail, htail⟩ := exists_numeral_eq_cons hc cs
    have hnumeral := numeral_exchange (c :: cs) hother
    have hscans : Scans c (tail ++ other) _ := .number hc
    rw [htail, List.cons_append] at hnumeral
    rw [signedNumeral, hnumeral] at hscans
    rw [signedNumeral, htail]
    exact ⟨_, rfl, hscans⟩
  | identifier hc =>
    have htext : (c :: cs).takeWhile continuesName = c :: cs.takeWhile continuesName := by
      simp [continuesName_of_startsName hc]
    have hrun := run_exchange .identifier (c :: cs) hother
    rw [htext, List.cons_append] at hrun
    exact ⟨_, htext, by rw [run, htext, ← hrun]; exact .identifier hc⟩

/-- What follows a token in a text ends it, unless it is a point. -/
theorem Scans.endsBefore {c : Char} {cs : List Char} {l : Lexeme} (h : Scans c cs l) {d : Char}
    (hd : d ∈ l.rest.head?) (hpoint : d ≠ '.') : l.kind.EndsBefore l.text d := by
  have hstop : ∀ {p : Char → Bool}, d ∈ ((c :: cs).dropWhile p).head? → p d = false := by
    intro p hd
    have hnot := List.head?_dropWhile_not p (c :: cs)
    rw [hd] at hnot
    simpa using hnot
  have hnumeral : ∀ ds : List Char, d ∈ (numeral ds).2.head? → isAsciiDigit d = false := by
    intro ds hd
    obtain ⟨_, _, -, -, -, hrest⟩ := exists_of_numeral ds
    exact hrest d hd
  cases h with
  | blank => exact hstop hd
  | identifier => exact hstop hd
  | leftBracket hcs => exact hcs d hd
  | operator hc h =>
    rw [(exists_of_operator hc h).1]
    exact endsBefore_of_operator h hd
  | negative => exact ⟨hnumeral _ hd, hpoint⟩
  | number => exact ⟨hnumeral _ hd, hpoint⟩
  | string | regex | pageRef | rightBracket | comma => trivial

/-- No token begins with a point. -/
theorem Scans.ne_point {c : Char} {cs : List Char} {l : Lexeme} (h : Scans c cs l) : c ≠ '.' := by
  rintro rfl
  have hscan := h.scan_eq
  rw [scan_of_not_mem_delimiters (by decide) (by decide), if_neg (by simp), if_neg (by decide),
    if_neg (by decide)] at hscan
  cases hscan

/-! ## Whole texts -/

/-- A lexeme at a byte offset. -/
def Lexeme.token (l : Lexeme) (offset : Nat) : Token := ⟨l.kind, String.ofList l.text, offset⟩

theorem tokensFrom_cons {c : Char} {cs : List Char} {l : Lexeme} (h : Scans c cs l) (offset : Nat) :
    tokensFrom offset (c :: cs) =
      (tokensFrom (l.token offset).stop l.rest).map (fun tokens => l.token offset :: tokens) := by
  have hscan := h.scan_eq
  rw [tokensFrom]
  split
  · rename_i cause herror
    rw [hscan] at herror
    cases herror
  · rename_i lexeme hlexeme
    obtain rfl := Except.ok.inj (hscan.symm.trans hlexeme)
    show (tokensFrom (l.token offset).stop l.rest >>= _) = _
    cases tokensFrom (l.token offset).stop l.rest <;> rfl

theorem exists_of_tokensFrom_cons {offset : Nat} {c : Char} {cs : List Char} {tokens : List Token}
    (h : tokensFrom offset (c :: cs) = .ok tokens) :
    ∃ l others, Scans c cs l ∧ tokensFrom (l.token offset).stop l.rest = .ok others ∧
      tokens = l.token offset :: others := by
  cases hscan : scan c cs with
  | error cause =>
    rw [tokensFrom] at h
    split at h
    · cases h
    · rename_i lexeme hlexeme
      rw [hscan] at hlexeme
      cases hlexeme
  | ok l =>
    have hscans := scans_of_scan hscan
    rw [tokensFrom_cons hscans] at h
    obtain ⟨others, hothers, rfl⟩ := exists_of_map h
    exact ⟨l, others, hscans, hothers, rfl⟩

theorem ne_point_of_tokensFrom {offset : Nat} {cs : List Char} {tokens : List Token}
    (h : tokensFrom offset cs = .ok tokens) {d : Char} (hd : d ∈ cs.head?) : d ≠ '.' := by
  rintro rfl
  obtain ⟨more, rfl⟩ := List.head?_eq_some_iff.1 hd
  obtain ⟨l, -, hscans, -, -⟩ := exists_of_tokensFrom_cons h
  exact hscans.ne_point rfl

end Lexer

end NoteQuery
