import NoteQuery.Proofs.Productions

/-!
# Reading token by token

The parser never goes back: what it does with a token is decided by what the query still needs when
the token comes. A `State` says what that is, and `State.step` what becomes of it with one more
token, or what was expected instead. Reading the tokens one by one in this way accepts what the
parser accepts, and it stops with the same error (`map_program_eq_read`).

An opening bracket replaces the value that was needed by the items of a list, so the needs form a
stack and lists may nest.
-/

namespace NoteQuery.Syntax

/-! ## What is needed -/

/-- What has to come next in a query that is not complete. -/
inductive Goal where
  | tableName | fieldName | comparison | value
  /-- The first item of a list, or the bracket that closes the list. -/
  | firstItem
  /-- What stands behind an item: a comma and a further item, or the bracket that closes the
  list. -/
  | afterItem
  | byWord | number | target
deriving DecidableEq

namespace Goal

/-- What the parser says that it expected. -/
def expectation : Goal → Expectation
  | tableName => .tableName
  | fieldName => .fieldName
  | comparison => .comparison
  | value | firstItem => .value
  | afterItem => .commaOrBracket
  | byWord => .byAfterOrder
  | number => .limitNumber
  | target => .renderTarget

/-- What a value still needs behind its first token. -/
def behindValue (t : Token) : Option (List Goal) :=
  if t.kind = .leftBracket then some [firstItem]
  else if isLiteral t then some []
  else none

/-- What is needed behind a token in place of the goal, if the goal can begin with it. -/
def behind (t : Token) : Goal → Option (List Goal)
  | tableName | fieldName => if isName t then some [] else none
  | comparison => if isComparison t then some [] else none
  | value => behindValue t
  | firstItem =>
    if t.kind = .rightBracket then some [] else (behindValue t).map (· ++ [afterItem])
  | afterItem =>
    if t.kind = .comma then some [value, afterItem]
    else if t.kind = .rightBracket then some []
    else none
  | byWord => if t.isWord "by" then some [] else none
  | number => if t.kind == .number then some [] else none
  | target => if isTarget t then some [] else none

end Goal

/-! ## States -/

/-- How a clause that could end may go on. -/
inductive Tail where
  | closed
  /-- With the direction of an order. -/
  | direction
  /-- With a comma and a further name. -/
  | names

/-- How far a query has been read. -/
inductive State where
  /-- The goals are still needed, the first one next; behind them the clause may go on. -/
  | inside (goal : Goal) (goals : List Goal) (tail : Tail)
  /-- The query could end. White space has been read since the last clause, or not. -/
  | between (tail : Tail) (spaced : Bool)
  /-- The end of the text has been read. -/
  | finished

namespace State

/-- The state in which goals are needed, or none. -/
def within (tail : Tail) : List Goal → State
  | [] => between tail false
  | goal :: goals => inside goal goals tail

/-- The state in front of a query. -/
def start : State := inside .tableName [] .closed

/-- The state behind a token that a clause goes on with. -/
def ofTail (t : Token) : Tail → Option State
  | .closed => none
  | .direction => if isDirection t then some (between .closed false) else none
  | .names => if t.kind = .comma then some (inside .fieldName [] .names) else none

/-- The state behind the first word of a clause. A word that no clause begins with is the field of a
filter. -/
def ofWord (word : String) : State :=
  if word = "where" ∨ word = "and" then inside .fieldName [.comparison, .value] .closed
  else if word = "order" then inside .byWord [.fieldName] .direction
  else if word = "limit" then inside .number [] .closed
  else if word = "select" then inside .fieldName [] .names
  else if word = "render" then inside .target [] .closed
  else inside .comparison [.value] .closed

/-- The state behind one more token, or what was expected in its place. -/
def step (t : Token) : State → Except Expectation State
  | inside goal goals tail =>
    if isBlank t then .ok (inside goal goals tail)
    else
      match goal.behind t with
      | some new => .ok (within tail (new ++ goals))
      | none => .error goal.expectation
  | between tail spaced =>
    if isBlank t then .ok (between tail true)
    else if t.kind = .endOfText then .ok finished
    else
      match ofTail t tail with
      | some s => .ok s
      | none =>
        if !spaced then .error .blankBetweenClauses
        else if t.kind ≠ .identifier then .error .clause
        else .ok (ofWord t.text)
  | finished => .ok finished

/-- The state behind tokens. -/
def run (s : State) : List Token → Except ParseError State
  | [] => .ok s
  | t :: rest =>
    match s.step t with
    | .ok s' => run s' rest
    | .error what => .error (expected what (t :: rest))

/-- Whether a query may end. -/
def finish : State → Except ParseError Unit
  | inside goal _ _ => .error (expected goal.expectation [])
  | between _ _ | finished => .ok ()

/-- Reads the rest of a query. -/
def read (s : State) (tokens : List Token) : Except ParseError Unit := s.run tokens >>= finish

/-! ## One token -/

theorem read_cons_of_ok {s s' : State} {t : Token} (h : s.step t = .ok s') (rest : List Token) :
    s.read (t :: rest) = s'.read rest := by
  simp only [read, run, h]

theorem read_cons_of_error {s : State} {t : Token} {what : Expectation} (h : s.step t = .error what)
    (rest : List Token) : s.read (t :: rest) = .error (expected what (t :: rest)) := by
  simp only [read, run, h]
  rfl

theorem step_inside_of_isBlank {t : Token} (ht : isBlank t = true) (goal : Goal) (goals : List Goal)
    (tail : Tail) : (inside goal goals tail).step t = .ok (inside goal goals tail) := by
  rw [step, if_pos ht]

theorem step_inside_of_some {t : Token} (ht : isBlank t = false) {goal : Goal} {new : List Goal}
    (h : goal.behind t = some new) (goals : List Goal) (tail : Tail) :
    (inside goal goals tail).step t = .ok (within tail (new ++ goals)) := by
  rw [step, if_neg (Bool.eq_false_iff.1 ht), h]

theorem step_inside_of_none {t : Token} (ht : isBlank t = false) {goal : Goal}
    (h : goal.behind t = none) (goals : List Goal) (tail : Tail) :
    (inside goal goals tail).step t = .error goal.expectation := by
  rw [step, if_neg (Bool.eq_false_iff.1 ht), h]

theorem read_finished (tokens : List Token) : finished.read tokens = .ok () := by
  induction tokens with
  | nil => rfl
  | cons t tokens ih => rw [read_cons_of_ok rfl, ih]

/-! ## White space -/

/-- White space is skipped inside a clause. -/
theorem read_inside_afterBlanks (goal : Goal) (goals : List Goal) (tail : Tail)
    (tokens : List Token) :
    (inside goal goals tail).read tokens = (inside goal goals tail).read (afterBlanks tokens) := by
  induction tokens with
  | nil => rfl
  | cons t rest ih =>
    cases ht : isBlank t with
    | true =>
      rw [read_cons_of_ok (step_inside_of_isBlank ht goal goals tail), ih, afterBlanks, afterBlanks,
        List.dropWhile_cons_of_pos ht]
    | false => rw [afterBlanks_cons ht]

/-- White space between clauses is noted. -/
theorem read_between_afterBlanks (tail : Tail) (spaced : Bool) (tokens : List Token) :
    (between tail spaced).read tokens =
      (between tail (spaced || !(blanks tokens).isEmpty)).read (afterBlanks tokens) := by
  induction tokens generalizing spaced with
  | nil => rfl
  | cons t rest ih =>
    cases ht : isBlank t with
    | true =>
      have hstep : (between tail spaced).step t = .ok (between tail true) := by rw [step, if_pos ht]
      rw [read_cons_of_ok hstep, ih, afterBlanks, afterBlanks, blanks, blanks,
        List.dropWhile_cons_of_pos ht, List.takeWhile_cons_of_pos ht, List.map_cons,
        List.isEmpty_cons, Bool.true_or, Bool.not_false, Bool.or_true]
    | false =>
      rw [afterBlanks_cons ht, blanks_cons ht, List.isEmpty_nil, Bool.not_true, Bool.or_false]

/-- What is left behind white space begins with no more of it. -/
theorem isBlank_of_afterBlanks_eq_cons {tokens rest : List Token} {t : Token}
    (h : afterBlanks tokens = t :: rest) : isBlank t = false := by
  have hnot := List.head?_dropWhile_not isBlank tokens
  rw [← afterBlanks, h] at hnot
  simpa using hnot

/-! ## Productions

A production is read token by token if reading from a state goes the same way as the production
does, and from another state behind it. -/

/-- The tokens that a production leaves. -/
def left {α : Type} (x : Except ParseError (α × List Token)) : Except ParseError (List Token) :=
  x.map Prod.snd

section

variable {α β : Type} {s s' s'' : State} {tokens : List Token}

/-- One production behind the other. -/
theorem read_bind {x : Except ParseError (α × List Token)}
    {f : α × List Token → Except ParseError (β × List Token)}
    (hx : s.read tokens = left x >>= s'.read)
    (hf : ∀ a rest, x = .ok (a, rest) → s'.read rest = left (f (a, rest)) >>= s''.read) :
    s.read tokens = left (x >>= f) >>= s''.read := by
  rw [hx]
  cases x with
  | error e => rfl
  | ok r => exact hf r.1 r.2 rfl

/-- Another result for the same tokens. -/
theorem read_map {x : Except ParseError (α × List Token)} {f : α × List Token → β × List Token}
    (hx : s.read tokens = left x >>= s'.read) (hf : ∀ r, (f r).2 = r.2) :
    s.read tokens = left (x.map f) >>= s'.read := by
  rw [hx]
  cases x with
  | error e => rfl
  | ok r => exact (congrArg s'.read (hf r)).symm

end

section

variable (goals : List Goal) (tail : Tail) (tokens : List Token)

theorem read_take {goal : Goal} {p : Token → Bool}
    (hgoal : ∀ t, goal.behind t = if p t then some [] else none) :
    (inside goal goals tail).read tokens =
      left (take p goal.expectation (afterBlanks tokens)) >>= (within tail goals).read := by
  rw [read_inside_afterBlanks]
  cases htokens : afterBlanks tokens with
  | nil => rfl
  | cons t rest =>
    have ht := isBlank_of_afterBlanks_eq_cons htokens
    have hbehind := hgoal t
    rw [take]
    split at hbehind
    · rename_i hp
      rw [if_pos hp, read_cons_of_ok (step_inside_of_some ht hbehind goals tail)]
      rfl
    · rename_i hp
      rw [if_neg hp, read_cons_of_error (step_inside_of_none ht hbehind goals tail)]
      rfl

theorem read_tableName :
    (inside .tableName goals tail).read tokens =
      left (tableName (afterBlanks tokens)) >>= (within tail goals).read :=
  read_bind (read_take goals tail tokens (fun _ => rfl)) (fun _ _ _ => rfl)

theorem read_fieldName :
    (inside .fieldName goals tail).read tokens =
      left (fieldName (afterBlanks tokens)) >>= (within tail goals).read :=
  read_bind (read_take goals tail tokens (fun _ => rfl)) (fun _ _ _ => rfl)

end

/-! ### Values -/

/-- A value takes tokens away. -/
theorem length_lt_of_value {fuel : Nat} {tokens rest : List Token} {tree : Tree}
    (h : value fuel tokens = .ok (tree, rest)) : rest.length < tokens.length := by
  obtain ⟨v, rfl, -⟩ := exists_of_value fuel h
  obtain ⟨t, others, htokens, -⟩ := v.exists_tokens_eq_cons
  rw [htokens, List.length_append, List.length_cons]
  omega

theorem length_afterBlanks_le (tokens : List Token) : (afterBlanks tokens).length ≤ tokens.length :=
  List.length_dropWhile_le ..

/-- The first item of a list is read as a value that is followed by the rest of the list. -/
theorem read_firstItem_cons (goals : List Goal) (tail : Tail) {t : Token} (ht : isBlank t = false)
    (hkind : t.kind ≠ .rightBracket) (rest : List Token) :
    (inside .firstItem goals tail).read (t :: rest) =
      (inside .value (.afterItem :: goals) tail).read (t :: rest) := by
  have hbehind : Goal.behind t .firstItem = (Goal.behind t .value).map (· ++ [.afterItem]) :=
    if_neg hkind
  cases hvalue : Goal.behind t .value with
  | none =>
    rw [hvalue] at hbehind
    rw [read_cons_of_error (step_inside_of_none ht hbehind goals tail),
      read_cons_of_error (step_inside_of_none ht hvalue (.afterItem :: goals) tail)]
    rfl
  | some new =>
    rw [hvalue, Option.map_some] at hbehind
    rw [read_cons_of_ok (step_inside_of_some ht hbehind goals tail),
      read_cons_of_ok (step_inside_of_some ht hvalue (.afterItem :: goals) tail),
      List.append_assoc, List.singleton_append]

mutual

theorem read_value (fuel : Nat) (goals : List Goal) (tail : Tail) (tokens : List Token)
    (hfuel : 3 * (afterBlanks tokens).length ≤ fuel) :
    (inside .value goals tail).read tokens =
      left (value fuel (afterBlanks tokens)) >>= (within tail goals).read := by
  rw [read_inside_afterBlanks]
  match fuel, htokens : afterBlanks tokens with
  | 0, [] | _ + 1, [] => simp only [value]; rfl
  | 0, t :: rest =>
    rw [htokens, List.length_cons] at hfuel
    omega
  | fuel + 1, t :: rest =>
    have ht := isBlank_of_afterBlanks_eq_cons htokens
    have hrest := length_afterBlanks_le rest
    rw [htokens, List.length_cons] at hfuel
    rw [value]
    split
    · rename_i hkind
      have hbehind : Goal.behind t .value = some [.firstItem] := by
        rw [Goal.behind, Goal.behindValue, if_pos hkind]
      rw [read_cons_of_ok (step_inside_of_some ht hbehind goals tail)]
      exact read_bind (read_listBody fuel goals tail rest (blanks rest) (by omega))
        (fun _ _ _ => rfl)
    · rename_i hkind
      have hbehind : Goal.behind t .value = if isLiteral t then some [] else none := by
        rw [Goal.behind, Goal.behindValue, if_neg hkind]
      rw [← isSome_literalTag?] at hbehind
      cases htag : literalTag? t with
      | some tag =>
        rw [htag, if_pos Option.isSome_some] at hbehind
        rw [read_cons_of_ok (step_inside_of_some ht hbehind goals tail)]
        rfl
      | none =>
        rw [htag, if_neg (by simp)] at hbehind
        rw [read_cons_of_error (step_inside_of_none ht hbehind goals tail)]
        rfl

theorem read_listBody (fuel : Nat) (goals : List Goal) (tail : Tail) (tokens : List Token)
    (gap : List Tree) (hfuel : 3 * (afterBlanks tokens).length + 2 ≤ fuel) :
    (inside .firstItem goals tail).read tokens =
      left (listBody fuel (afterBlanks tokens) gap) >>= (within tail goals).read := by
  rw [read_inside_afterBlanks]
  match fuel, htokens : afterBlanks tokens with
  | 0, _ => omega
  | _ + 1, [] => simp only [listBody]; rfl
  | fuel + 1, t :: rest =>
    have ht := isBlank_of_afterBlanks_eq_cons htokens
    rw [listBody]
    split
    · rename_i hkind
      have hbehind : Goal.behind t .firstItem = some [] := by rw [Goal.behind, if_pos hkind]
      rw [read_cons_of_ok (step_inside_of_some ht hbehind goals tail)]
      rfl
    · rename_i hkind
      have hitems := read_items fuel goals tail (t :: rest)
        (by rw [afterBlanks_cons ht, ← htokens]; omega)
      rw [afterBlanks_cons ht] at hitems
      rw [read_firstItem_cons goals tail ht hkind]
      exact read_bind hitems (fun _ _ _ => rfl)

theorem read_items (fuel : Nat) (goals : List Goal) (tail : Tail) (tokens : List Token)
    (hfuel : 3 * (afterBlanks tokens).length + 1 ≤ fuel) :
    (inside .value (.afterItem :: goals) tail).read tokens =
      left (items fuel (afterBlanks tokens)) >>= (within tail goals).read := by
  match fuel with
  | 0 => omega
  | fuel + 1 =>
    rw [items]
    refine read_bind (read_value fuel (.afterItem :: goals) tail tokens (by omega)) ?_
    intro item rest hitem
    have hlength := length_lt_of_value hitem
    show (inside .afterItem goals tail).read rest = _
    rw [read_inside_afterBlanks]
    dsimp only
    cases hrest : afterBlanks rest with
    | nil => rfl
    | cons t others =>
      have ht := isBlank_of_afterBlanks_eq_cons hrest
      have hbehind : Goal.behind t .afterItem = if t.kind = .comma then some [.value, .afterItem]
        else if t.kind = .rightBracket then some [] else none := rfl
      dsimp only
      split
      · rename_i hkind
        rw [if_pos hkind] at hbehind
        rw [read_cons_of_ok (step_inside_of_some ht hbehind goals tail)]
        have hle := length_afterBlanks_le rest
        have hle' := length_afterBlanks_le others
        rw [hrest, List.length_cons] at hle
        exact read_bind (read_items fuel goals tail others (by omega)) (fun _ _ _ => rfl)
      · rename_i hcomma
        rw [if_neg hcomma] at hbehind
        split
        · rename_i hkind
          rw [if_pos hkind] at hbehind
          rw [read_cons_of_ok (step_inside_of_some ht hbehind goals tail)]
          rfl
        · rename_i hkind
          rw [if_neg hkind] at hbehind
          rw [read_cons_of_error (step_inside_of_none ht hbehind goals tail)]
          rfl

end

/-! ### Clauses -/

theorem read_filterExpr (tail : Tail) (tokens : List Token) :
    (inside .fieldName [.comparison, .value] tail).read tokens =
      left (filterExpr (afterBlanks tokens)) >>= (between tail false).read := by
  refine read_bind (read_fieldName [.comparison, .value] tail tokens) (fun field rest _ => ?_)
  refine read_bind (read_take [.value] tail rest (fun _ => rfl)) (fun operator rest' _ => ?_)
  refine read_bind (read_value (fuelFor rest') [] tail rest' ?_) (fun _ _ _ => rfl)
  have hle := length_afterBlanks_le rest'
  rw [fuelFor]
  omega

theorem read_connectedFilter (word : Token) (tokens : List Token) :
    (inside .fieldName [.comparison, .value] .closed).read tokens =
      left (connectedFilter word tokens) >>= (between .closed false).read :=
  read_bind (read_filterExpr .closed tokens) (fun _ _ _ => rfl)

/-- A clause ends in front of a token that it does not go on with. -/
theorem read_between_eq_closed {tail : Tail} {tokens : List Token}
    (h : ∀ t ∈ next? tokens, ofTail t tail = none) :
    (between tail false).read tokens = (between .closed false).read tokens := by
  rw [read_between_afterBlanks tail, read_between_afterBlanks .closed]
  cases htokens : afterBlanks tokens with
  | nil => rfl
  | cons t rest =>
    have ht := isBlank_of_afterBlanks_eq_cons htokens
    have hnone := h t (by rw [next?, htokens]; rfl)
    have hstep : ∀ spaced, (between tail spaced).step t = (between .closed spaced).step t := by
      intro spaced
      rw [step, step, if_neg (Bool.eq_false_iff.1 ht), if_neg (Bool.eq_false_iff.1 ht), hnone]
      rfl
    rw [read, read, run, run, hstep]

theorem read_between_of_some {t : Token} (ht : isBlank t = false) (hkind : t.kind ≠ .endOfText)
    {tail : Tail} {s : State} (h : ofTail t tail = some s) (spaced : Bool) (rest : List Token) :
    (between tail spaced).read (t :: rest) = s.read rest := by
  refine read_cons_of_ok ?_ rest
  rw [step, if_neg (Bool.eq_false_iff.1 ht), if_neg hkind, h]

theorem read_direction (tokens : List Token) :
    (between .direction false).read tokens = (between .closed false).read (direction tokens).2 := by
  cases hdirection : direction tokens with
  | mk trees rest =>
    rcases exists_of_direction hdirection with ⟨⟨gap, word⟩, rfl, -⟩ | ⟨rfl, -, hnone⟩
    · have hsome : ofTail word.1 .direction = some (between .closed false) := by
        rw [ofTail, if_pos word.2]
      rw [DirectionPhrase.tokens, List.append_assoc, List.singleton_append,
        read_between_afterBlanks, afterBlanks_gap_append_cons]
      exact read_between_of_some (isBlank_eq_false word) (kind_ne_endOfText word) hsome _ rest
    · refine read_between_eq_closed (fun t ht => ?_)
      rw [ofTail, if_neg (Bool.eq_false_iff.1 (hnone t ht))]

theorem read_orderClause (word : Token) (tokens : List Token) :
    (inside .byWord [.fieldName] .direction).read tokens =
      left (orderClause word tokens) >>= (between .closed false).read := by
  refine read_bind (read_take [.fieldName] .direction tokens (fun _ => rfl)) (fun by' rest _ => ?_)
  refine read_bind (read_fieldName [] .direction rest) (fun field rest' _ => ?_)
  exact read_direction rest'

theorem read_limitClause (word : Token) (tokens : List Token) :
    (inside .number [] .closed).read tokens =
      left (limitClause word tokens) >>= (between .closed false).read :=
  read_bind (read_take [] .closed tokens (fun _ => rfl)) (fun _ _ _ => rfl)

theorem read_furtherNames (fuel : Nat) (tokens : List Token) (hfuel : tokens.length ≤ fuel) :
    (between .names false).read tokens =
      left (furtherNames fuel tokens) >>= (between .closed false).read := by
  induction fuel generalizing tokens with
  | zero =>
    obtain rfl := List.length_eq_zero_iff.1 (Nat.le_zero.1 hfuel)
    rfl
  | succ fuel ih =>
    have hle := length_afterBlanks_le tokens
    rw [furtherNames]
    cases htokens : afterBlanks tokens with
    | nil =>
      refine read_between_eq_closed (fun t ht => ?_)
      rw [next?, htokens] at ht
      cases ht
    | cons t rest =>
      have ht := isBlank_of_afterBlanks_eq_cons htokens
      rw [htokens, List.length_cons] at hle
      dsimp only
      split
      · rename_i hcomma
        have hsome : ofTail t .names = some (inside .fieldName [] .names) := by
          rw [ofTail, if_pos hcomma]
        rw [read_between_afterBlanks, htokens, read_between_of_some ht (by simp [hcomma]) hsome]
        refine read_bind (read_fieldName [] .names rest) (fun field rest' hfield => ?_)
        obtain ⟨name, hrest, -⟩ := exists_of_fieldName hfield
        have hle' := length_afterBlanks_le rest
        rw [hrest, List.length_cons] at hle'
        exact read_bind (ih rest' (by omega)) (fun _ _ _ => rfl)
      · rename_i hcomma
        refine read_between_eq_closed (fun u hu => ?_)
        rw [next?, htokens] at hu
        obtain rfl := Option.some.inj hu
        rw [ofTail, if_neg hcomma]

theorem read_selectClause (word : Token) (tokens : List Token) :
    (inside .fieldName [] .names).read tokens =
      left (selectClause word tokens) >>= (between .closed false).read := by
  refine read_bind (read_fieldName [] .names tokens) (fun field rest _ => ?_)
  exact read_bind (read_furtherNames rest.length rest le_rfl) (fun _ _ _ => rfl)

theorem read_renderClause (word : Token) (tokens : List Token) :
    (inside .target [] .closed).read tokens =
      left (renderClause word tokens) >>= (between .closed false).read := by
  rw [read_inside_afterBlanks, renderClause]
  cases htokens : afterBlanks tokens with
  | nil => rfl
  | cons t rest =>
    have ht := isBlank_of_afterBlanks_eq_cons htokens
    have hbehind : Goal.behind t .target = if isTarget t then some [] else none := rfl
    have htarget : isTarget t = true ↔ t.kind = .pageRef ∨ t.kind = .string := by simp [isTarget]
    dsimp only
    split
    · rename_i hkind
      rw [if_pos (htarget.2 hkind)] at hbehind
      rw [read_cons_of_ok (step_inside_of_some ht hbehind [] .closed)]
      rfl
    · rename_i hkind
      rw [if_neg (htarget.not.2 hkind)] at hbehind
      rw [read_cons_of_error (step_inside_of_none ht hbehind [] .closed)]
      rfl

/-- A clause behind white space. -/
theorem read_clause {t : Token} (ht : isBlank t = false) (hkind : t.kind ≠ .endOfText)
    (rest : List Token) :
    (between .closed true).read (t :: rest) =
      left (clause (t :: rest)) >>= (between .closed false).read := by
  have hstep : (between .closed true).step t =
      if t.kind ≠ .identifier then .error .clause else .ok (ofWord t.text) := by
    rw [step, if_neg (Bool.eq_false_iff.1 ht), if_neg hkind]
    rfl
  rw [clause]
  split at hstep
  · rename_i hidentifier
    rw [if_pos hidentifier, read_cons_of_error hstep]
    rfl
  rename_i hidentifier
  rw [if_neg hidentifier, read_cons_of_ok hstep, ofWord]
  split
  · exact read_connectedFilter t rest
  rename_i hconnective
  split
  · exact read_map (read_orderClause t rest) (fun _ => rfl)
  rename_i horder
  split
  · exact read_map (read_limitClause t rest) (fun _ => rfl)
  rename_i hlimit
  split
  · exact read_map (read_selectClause t rest) (fun _ => rfl)
  rename_i hselect
  split
  · exact read_map (read_renderClause t rest) (fun _ => rfl)
  rename_i hrender
  -- the word is the field of a filter, which the parser reads once more
  have hname : isName t = true := by
    obtain ⟨hwhere, hand⟩ := not_or.1 hconnective
    simp [isName, clauseKeywords, not_not.1 hidentifier, hwhere, hand, horder, hlimit, hselect,
      hrender]
  have hbehind : Goal.behind t .fieldName = some [] := by rw [Goal.behind, if_pos hname]
  have hfilter := read_filterExpr .closed (t :: rest)
  rw [afterBlanks_cons ht,
    read_cons_of_ok (step_inside_of_some ht hbehind [.comparison, .value] .closed)] at hfilter
  exact read_map hfilter (fun _ => rfl)

/-- The end of the text is found. -/
theorem read_between_of_atEnd {tail : Tail} {spaced : Bool} {tokens : List Token}
    (h : atEnd (afterBlanks tokens) = true) : (between tail spaced).read tokens = .ok () := by
  rw [read_between_afterBlanks]
  cases htokens : afterBlanks tokens with
  | nil => rfl
  | cons t rest =>
    rw [htokens] at h
    have hstep : ∀ spaced, (between tail spaced).step t = .ok finished := by
      intro spaced
      rw [step, if_neg (Bool.eq_false_iff.1 (isBlank_of_afterBlanks_eq_cons htokens)),
        if_pos (eq_of_beq h)]
    rw [read_cons_of_ok (hstep _), read_finished]

/-- A token that comes too early is refused. -/
theorem read_between_of_blanks_eq_nil {tokens : List Token}
    (hblanks : (blanks tokens).isEmpty = true) (hend : atEnd (afterBlanks tokens) = false) :
    (between .closed false).read tokens = .error (expected .blankBetweenClauses tokens) := by
  -- without white space in front of them, these are the tokens behind it
  have hfront : afterBlanks tokens = tokens := by
    have hnil : (leadingGap tokens).tokens = [] :=
      List.map_eq_nil_iff.1 (List.isEmpty_iff.1 hblanks)
    have hgap := eq_leadingGap_append tokens
    rw [hnil, List.nil_append] at hgap
    exact hgap.symm
  rw [hfront] at hend
  cases tokens with
  | nil => cases hend
  | cons t rest =>
    have hstep : (between .closed false).step t = .error .blankBetweenClauses := by
      rw [step, if_neg (Bool.eq_false_iff.1 (isBlank_of_afterBlanks_eq_cons hfront)),
        if_neg (beq_eq_false_iff_ne.1 hend)]
      rfl
    exact read_cons_of_error hstep rest

theorem read_clauses (fuel : Nat) (tokens : List Token) (hfuel : tokens.length < fuel) :
    (between .closed false).read tokens =
      left (clauses fuel tokens) >>= fun rest =>
        if atEnd (afterBlanks rest) then .ok ()
        else .error (expected .endOfQuery (afterBlanks rest)) := by
  induction fuel generalizing tokens with
  | zero => omega
  | succ fuel ih =>
    rw [clauses]
    split
    · rename_i hend
      show _ = if atEnd (afterBlanks tokens) = true then _ else _
      rw [if_pos hend, read_between_of_atEnd hend]
    rename_i hend
    have hend := Bool.eq_false_iff.2 hend
    split
    · rename_i hblanks
      exact read_between_of_blanks_eq_nil hblanks hend
    rename_i hblanks
    have hle := length_afterBlanks_le tokens
    rw [read_between_afterBlanks, Bool.eq_false_iff.2 hblanks, Bool.not_false, Bool.or_true]
    cases htokens : afterBlanks tokens with
    | nil =>
      rw [htokens] at hend
      cases hend
    | cons t rest =>
      rw [htokens] at hend hle
      rw [read_clause (isBlank_of_afterBlanks_eq_cons htokens) (beq_eq_false_iff_ne.1 hend)]
      cases hclause : clause (t :: rest) with
      | error e => rfl
      | ok r =>
        obtain ⟨first, behind⟩ := r
        -- a clause is not empty, so less is left
        have hlength : behind.length < (t :: rest).length := by
          obtain ⟨c, hc, -⟩ := exists_of_clause hclause
          obtain ⟨u, others, hothers, -⟩ := c.exists_tokens_eq_cons
          rw [hc, hothers, List.length_append, List.length_cons]
          omega
        show (between .closed false).read behind = left (clauses fuel behind >>= _) >>= _
        rw [ih behind (by omega)]
        cases clauses fuel behind <;> rfl

end State

/-! ## Whole queries -/

/-- The parser accepts the tokens that are read to the end one by one, and refuses the others with
the same error. -/
theorem map_program_eq_read (size : Nat) (tokens : List Token) :
    (program size tokens).map (fun _ => ()) = State.start.read tokens := by
  rw [State.start, State.read_tableName, program, query]
  cases htable : tableName (afterBlanks tokens) with
  | error e => rfl
  | ok r =>
    obtain ⟨table, rest⟩ := r
    show _ = (State.between .closed false).read rest
    rw [State.read_clauses (rest.length + 1) rest (Nat.lt_succ_self _)]
    show ((clauses (rest.length + 1) rest >>= _) >>= _).map _ = _
    cases clauses (rest.length + 1) rest with
    | error e => rfl
    | ok r =>
      obtain ⟨more, rest'⟩ := r
      show (if atEnd (afterBlanks rest') = true then _ else _ : Except ParseError Tree).map _ =
        if atEnd (afterBlanks rest') = true then _ else _
      split <;> rfl

end NoteQuery.Syntax
