import NoteQuery.Document.ResultTable
import NoteQuery.Proofs.FirstOccurrences
import Mathlib.Algebra.BigOperators.Group.List.Basic
import Mathlib.Algebra.GroupWithZero.Nat

/-!
# When a result table is rectangular

A table is read line by line, and a line is read by cutting it at its *bare* pipes, those with no
backslash directly before them. A table of `n` columns is rectangular if it has one line for each
record behind two more, and each line starts and ends with a bare pipe and has `n + 1` of them.

The text of a value is escaped before it becomes a cell, the name of a column is not, and a
backslash at the end of either hides the pipe that closes it. `isRectangular_resultTable_iff` says
exactly which tables are rectangular in spite of this, and what is read from them.
-/

namespace NoteQuery

open NoteQuery.Text

/-! ## Pieces between separators -/

namespace Text

variable {p : Char → Bool}

theorem splitBy_ne_nil (cs : List Char) : splitBy p cs ≠ [] := by
  cases cs with
  | nil => nofun
  | cons c cs =>
    rw [splitBy]
    split
    · nofun
    · split <;> nofun

theorem splitBy_cons (c : Char) (cs : List Char) :
    splitBy p (c :: cs) =
      if p c then [] :: splitBy p cs else (splitBy p cs).modifyHead (c :: ·) := by
  rw [splitBy]
  split
  · rfl
  · obtain ⟨piece, pieces, hcons⟩ := List.exists_cons_of_ne_nil (splitBy_ne_nil (p := p) cs)
    rw [hcons]
    rfl

theorem length_splitBy (cs : List Char) : (splitBy p cs).length = cs.countP p + 1 := by
  induction cs with
  | nil => rfl
  | cons c cs ih =>
    rw [splitBy_cons, List.countP_cons]
    by_cases hc : p c = true
    · rw [if_pos hc, if_pos hc, List.length_cons, ih]
    · rw [if_neg hc, if_neg hc, List.length_modifyHead, ih]

/-- A text without a separator is its own only piece. -/
theorem splitBy_eq_singleton {cs : List Char} (h : ∀ c ∈ cs, p c = false) :
    splitBy p cs = [cs] := by
  induction cs with
  | nil => rfl
  | cons c cs ih =>
    obtain ⟨hc, hcs⟩ := List.forall_mem_cons.1 h
    rw [splitBy_cons, hc, ih hcs]
    rfl

theorem splitBy_append_cons {c : Char} (hc : p c = true) (before after : List Char) :
    splitBy p (before ++ c :: after) = splitBy p before ++ splitBy p after := by
  induction before with
  | nil => rw [List.nil_append, splitBy_cons, if_pos hc]; rfl
  | cons d ds ih =>
    rw [List.cons_append, splitBy_cons, splitBy_cons, ih]
    split
    · rfl
    · obtain ⟨piece, pieces, hcons⟩ := List.exists_cons_of_ne_nil (splitBy_ne_nil (p := p) ds)
      rw [hcons]
      rfl

/-- Joined lines are cut into their own lines. -/
theorem splitBy_joinWith_newline {lines : List String} (h : lines ≠ []) :
    splitBy (· == '\n') (joinWith "\n" lines).toList =
      lines.flatMap (fun line => splitBy (· == '\n') line.toList) := by
  induction lines with
  | nil => exact absurd rfl h
  | cons line lines ih =>
    cases lines with
    | nil => simp [joinWith]
    | cons next rest =>
      rw [joinWith_cons_cons, String.toList_append, String.toList_append, List.append_assoc,
        List.flatMap_cons, ← ih (List.cons_ne_nil _ _)]
      exact splitBy_append_cons rfl _ _

/-- Joined lines are read as so many lines exactly if none of them holds a line end. -/
theorem length_splitBy_joinWith_iff {lines : List String} (h : lines ≠ []) :
    (splitBy (· == '\n') (joinWith "\n" lines).toList).length = lines.length ↔
      ∀ line ∈ lines, '\n' ∉ line.toList := by
  rw [splitBy_joinWith_newline h]
  clear h
  have hmany : ∀ lines : List String,
      lines.length ≤ (lines.flatMap (fun line => splitBy (· == '\n') line.toList)).length := by
    intro lines
    induction lines with
    | nil => exact Nat.le_refl 0
    | cons line lines ih =>
      rw [List.flatMap_cons, List.length_append, length_splitBy, List.length_cons]
      omega
  induction lines with
  | nil => exact iff_of_true rfl nofun
  | cons line lines ih =>
    have hcount : line.toList.countP (· == '\n') = 0 ↔ '\n' ∉ line.toList := by
      rw [List.countP_eq_zero]
      constructor
      · exact fun hnone hmem => hnone _ hmem rfl
      · exact fun hnot c hc hend => hnot (eq_of_beq hend ▸ hc)
    have hrest := hmany lines
    rw [List.flatMap_cons, List.length_append, length_splitBy, List.length_cons,
      List.forall_mem_cons, ← hcount]
    constructor
    · intro hlength
      exact ⟨by omega, ih.1 (by omega)⟩
    · rintro ⟨hline, hlines⟩
      have hlength := ih.2 hlines
      omega

theorem splitBy_joinWith_eq_map {lines : List String} (h : lines ≠ [])
    (hlines : ∀ line ∈ lines, '\n' ∉ line.toList) :
    splitBy (· == '\n') (joinWith "\n" lines).toList = lines.map String.toList := by
  rw [splitBy_joinWith_newline h]
  clear h
  induction lines with
  | nil => rfl
  | cons line lines ih =>
    obtain ⟨hline, hlines⟩ := List.forall_mem_cons.1 hlines
    have hpieces : splitBy (· == '\n') line.toList = [line.toList] := by
      apply splitBy_eq_singleton
      intro c hc
      exact beq_eq_false_iff_ne.2 (fun hend => hline (hend ▸ hc))
    rw [List.flatMap_cons, hpieces, ih hlines]
    rfl

end Text

namespace ResultTable

/-! ## Bare pipes -/

/-- Number of bare pipes of a text with the character `before` in front of it. -/
def barePipes (before : Char) : List Char → ℕ
  | [] => 0
  | c :: cs => (if c = '|' ∧ before ≠ '\\' then 1 else 0) + barePipes c cs

/-- Pieces between the bare pipes of a text with the character `before` in front of it. -/
def splitAtBarePipes (before : Char) : List Char → List (List Char)
  | [] => [[]]
  | c :: cs =>
    if c = '|' ∧ before ≠ '\\' then [] :: splitAtBarePipes c cs
    else (splitAtBarePipes c cs).modifyHead (c :: ·)

variable {before : Char}

theorem barePipes_append (before : Char) (cs ds : List Char) :
    barePipes before (cs ++ ds) = barePipes before cs + barePipes (cs.getLastD before) ds := by
  induction cs generalizing before with
  | nil => rw [barePipes, Nat.zero_add]; rfl
  | cons c cs ih =>
    rw [List.cons_append, barePipes, barePipes, ih, List.getLastD_cons, Nat.add_assoc]

theorem length_splitAtBarePipes (before : Char) (cs : List Char) :
    (splitAtBarePipes before cs).length = barePipes before cs + 1 := by
  induction cs generalizing before with
  | nil => rfl
  | cons c cs ih =>
    rw [splitAtBarePipes, barePipes]
    split
    · rw [List.length_cons, ih, Nat.add_comm 1]
    · rw [List.length_modifyHead, ih, Nat.zero_add]

theorem splitAtBarePipes_eq_singleton {cs : List Char} (h : barePipes before cs = 0) :
    splitAtBarePipes before cs = [cs] := by
  induction cs generalizing before with
  | nil => rfl
  | cons c cs ih =>
    obtain ⟨hc, hcs⟩ := Nat.add_eq_zero_iff.1 h
    have hnot : ¬ (c = '|' ∧ before ≠ '\\') := by
      intro hbare
      rw [if_pos hbare] at hc
      cases hc
    rw [splitAtBarePipes, if_neg hnot, ih hcs]
    rfl

theorem splitAtBarePipes_append_pipe {cs : List Char} (h : cs.getLastD before ≠ '\\')
    (ds : List Char) :
    splitAtBarePipes before (cs ++ '|' :: ds) =
      splitAtBarePipes before cs ++ splitAtBarePipes '|' ds := by
  induction cs generalizing before with
  | nil => exact if_pos ⟨rfl, h⟩
  | cons c cs ih =>
    rw [List.getLastD_cons] at h
    rw [List.cons_append, splitAtBarePipes, splitAtBarePipes, ih h]
    split
    · rfl
    · have hlength := length_splitAtBarePipes c cs
      obtain ⟨piece, pieces, hcons⟩ := List.exists_cons_of_length_eq_add_one hlength
      rw [hcons]
      rfl

/-! ## Rows -/

/-- A line that starts and ends with a bare pipe and has one bare pipe more than there are columns.
The line end of the line above stands before it. -/
structure IsRow (count : ℕ) (row : List Char) : Prop where
  pipes : barePipes '\n' row = count + 1
  first : row.head? = some '|'
  last : ∃ front, row = front ++ ['|'] ∧ front.getLastD '\n' ≠ '\\'

/-- Cut at its bare pipes, a row gives one cell for each column between two empty pieces. -/
theorem IsRow.exists_cells {count : ℕ} {row : List Char} (h : IsRow count row) :
    ∃ cells : List (List Char), cells.length = count ∧
      splitAtBarePipes '\n' row = [] :: (cells ++ [[]]) := by
  obtain ⟨hpipes, hfirst, front, rfl, hlast⟩ := h
  cases front with
  | nil => exact ⟨[], Nat.succ.inj hpipes, rfl⟩
  | cons c inner =>
    obtain rfl : c = '|' := Option.some.inj hfirst
    rw [List.getLastD_cons] at hlast
    have hsplit : splitAtBarePipes '\n' ('|' :: inner ++ ['|']) =
        [] :: (splitAtBarePipes '|' inner ++ [[]]) := by
      rw [List.cons_append, splitAtBarePipes, if_pos ⟨rfl, by decide⟩,
        splitAtBarePipes_append_pipe hlast]
      rfl
    refine ⟨splitAtBarePipes '|' inner, ?_, hsplit⟩
    have hlength := length_splitAtBarePipes '\n' ('|' :: inner ++ ['|'])
    rw [hsplit, hpipes, List.length_cons, List.length_append, List.length_singleton] at hlength
    omega

/-! ## Lines of cells -/

/-- Whether a text ends in a backslash. -/
def endsInBackslash (text : String) : Bool := text.toList.getLast? == some '\\'

theorem getLastD_eq_backslash_iff (before : Char) (hbefore : before ≠ '\\') (text : String) :
    text.toList.getLastD before = '\\' ↔ endsInBackslash text = true := by
  rw [endsInBackslash, beq_iff_eq, List.getLastD_eq_getLast?]
  cases text.toList.getLast? with
  | none => simp [hbefore]
  | some c => simp

theorem toList_line {cells : List String} (h : cells ≠ []) :
    (line cells).toList = '|' :: cells.flatMap (fun cell => cell.toList ++ ['|']) := by
  have hjoined : (joinWith "|" cells).toList ++ ['|'] =
      cells.flatMap (fun cell => cell.toList ++ ['|']) := by
    induction cells with
    | nil => exact absurd rfl h
    | cons cell cells ih =>
      cases cells with
      | nil => simp [joinWith]
      | cons next rest =>
        rw [joinWith_cons_cons, String.toList_append, String.toList_append, List.flatMap_cons,
          ← ih (List.cons_ne_nil _ _), List.append_assoc (cell.toList ++ "|".toList)]
        rfl
  rw [line, String.toList_append, String.toList_append, List.append_assoc]
  exact congrArg ('|' :: ·) hjoined

/-- Behind the first pipe of a line stand the bare pipes of its cells and one for each cell that no
backslash ends. -/
theorem barePipes_cells (cells : List String) :
    barePipes '|' (cells.flatMap (fun cell => cell.toList ++ ['|'])) +
        cells.countP endsInBackslash =
      (cells.map (fun cell => barePipes '|' cell.toList)).sum + cells.length := by
  induction cells with
  | nil => rfl
  | cons cell cells ih =>
    have hclosing : barePipes '|' (cell.toList ++ ['|']) + (if endsInBackslash cell then 1 else 0) =
        barePipes '|' cell.toList + 1 := by
      have hends := getLastD_eq_backslash_iff '|' (by decide) cell
      rw [barePipes_append, barePipes, barePipes]
      by_cases hcell : endsInBackslash cell = true
      · rw [if_pos hcell, if_neg (fun hbare => hbare.2 (hends.2 hcell))]
      · rw [if_neg hcell, if_pos ⟨rfl, fun hbackslash => hcell (hends.1 hbackslash)⟩]
    rw [List.flatMap_cons, barePipes_append, List.getLastD_concat, List.countP_cons, List.map_cons,
      List.sum_cons, List.length_cons]
    omega

theorem exists_front_of_cells {cells : List String} (h : cells ≠ []) :
    ∃ front, '|' :: cells.flatMap (fun cell => cell.toList ++ ['|']) = front ++ ['|'] ∧
      front.getLastD '\n' = (cells.getLast h).toList.getLastD '|' := by
  refine ⟨'|' :: cells.dropLast.flatMap (fun cell => cell.toList ++ ['|']) ++
    (cells.getLast h).toList, ?_, ?_⟩
  · conv_lhs => rw [← List.dropLast_append_getLast h]
    simp
  · -- what stands before the last cell ends in a pipe
    have hpipe : ∀ others : List String,
        (others.flatMap (fun cell => cell.toList ++ ['|'])).getLastD '|' = '|' := by
      intro others
      rcases List.eq_nil_or_concat others with rfl | ⟨front, cell, rfl⟩
      · rfl
      · rw [List.concat_eq_append, List.flatMap_append, List.flatMap_singleton, ← List.append_assoc,
          List.getLastD_concat]
    have happend :
        ∀ (cs ds : List Char), (cs ++ ds).getLastD '|' = ds.getLastD (cs.getLastD '|') := by
      intro cs ds
      simp only [List.getLastD_eq_getLast?, List.getLast?_append]
      cases ds.getLast? <;> rfl
    rw [List.cons_append, List.getLastD_cons, happend, hpipe]

/-- A line is a row exactly if as many pipes are bare inside its cells as backslashes hide between
them, and the last pipe is not hidden. -/
theorem isRow_line_iff {cells : List String} (h : cells ≠ []) :
    IsRow cells.length (line cells).toList ↔
      (cells.map (fun cell => barePipes '|' cell.toList)).sum = cells.countP endsInBackslash ∧
        endsInBackslash (cells.getLast h) = false := by
  obtain ⟨front, hfront, hlast⟩ := exists_front_of_cells h
  have hpipes := barePipes_cells cells
  have hends := getLastD_eq_backslash_iff '|' (by decide) (cells.getLast h)
  have hcount : barePipes '\n' ('|' :: cells.flatMap (fun cell => cell.toList ++ ['|'])) =
      1 + barePipes '|' (cells.flatMap (fun cell => cell.toList ++ ['|'])) := rfl
  rw [toList_line h]
  constructor
  · rintro ⟨hbare, -, front', hfront', hlast'⟩
    obtain rfl : front = front' := List.append_cancel_right (hfront.symm.trans hfront')
    refine ⟨by omega, ?_⟩
    rw [← Bool.not_eq_true, ← hends, ← hlast]
    exact hlast'
  · rintro ⟨hsum, hnot⟩
    refine ⟨by omega, rfl, front, hfront, ?_⟩
    rw [hlast, ne_eq, hends, hnot]
    exact Bool.false_ne_true

/-- If no pipe is bare inside the cells of a line, it is a row exactly if no cell ends in a
backslash. -/
theorem isRow_line_iff_of_barePipes_eq_zero {cells : List String} (h : cells ≠ [])
    (hbare : ∀ cell ∈ cells, barePipes '|' cell.toList = 0) :
    IsRow cells.length (line cells).toList ↔ ∀ cell ∈ cells, endsInBackslash cell = false := by
  have hsum : (cells.map (fun cell => barePipes '|' cell.toList)).sum = 0 :=
    List.sum_eq_zero (List.forall_mem_map.2 hbare)
  rw [isRow_line_iff h, hsum, eq_comm, List.countP_eq_zero]
  simp only [Bool.not_eq_true]
  constructor
  · exact fun hrow => hrow.1
  · exact fun hall => ⟨hall, hall _ (List.getLast_mem h)⟩

/-- Cut at its bare pipes, such a line gives its cells. -/
theorem splitAtBarePipes_line {cells : List String} (h : cells ≠ [])
    (hbare : ∀ cell ∈ cells, barePipes '|' cell.toList = 0)
    (hends : ∀ cell ∈ cells, endsInBackslash cell = false) :
    splitAtBarePipes '\n' (line cells).toList = [] :: (cells.map String.toList ++ [[]]) := by
  have hcells : splitAtBarePipes '|' (cells.flatMap (fun cell => cell.toList ++ ['|'])) =
      cells.map String.toList ++ [[]] := by
    clear h
    induction cells with
    | nil => rfl
    | cons cell cells ih =>
      obtain ⟨hbare, hbares⟩ := List.forall_mem_cons.1 hbare
      obtain ⟨hend, hends⟩ := List.forall_mem_cons.1 hends
      have hlast : cell.toList.getLastD '|' ≠ '\\' := by
        rw [ne_eq, getLastD_eq_backslash_iff '|' (by decide), hend]
        exact Bool.false_ne_true
      rw [List.flatMap_cons, List.append_assoc, List.singleton_append,
        splitAtBarePipes_append_pipe hlast, splitAtBarePipes_eq_singleton hbare, ih hbares hends]
      rfl
  rw [toList_line h, splitAtBarePipes, if_pos ⟨rfl, by decide⟩, hcells]

theorem splitAtBarePipes_line_map {α : Type} {xs : List α} (h : xs ≠ []) (f : α → String)
    (hbare : ∀ x ∈ xs, barePipes '|' (f x).toList = 0)
    (hends : ∀ x ∈ xs, endsInBackslash (f x) = false) :
    splitAtBarePipes '\n' (line (xs.map f)).toList =
      [] :: (xs.map (fun x => (f x).toList) ++ [[]]) := by
  have hcells : xs.map f ≠ [] := fun hnil => h (List.map_eq_nil_iff.1 hnil)
  rw [splitAtBarePipes_line hcells (List.forall_mem_map.2 hbare) (List.forall_mem_map.2 hends),
    List.map_map]
  rfl

/-! ## Cells of values -/

theorem newline_not_mem_escapeCell (cs : List Char) : '\n' ∉ escapeCell cs := by
  fun_induction escapeCell cs with
  | case1 => nofun
  | case2 cs ih => simpa using ih
  | case3 c cs hc ih =>
    rw [List.mem_cons, not_or]
    refine ⟨?_, ih⟩
    split
    · decide
    · rename_i hend
      exact fun hc => hend (.inr hc.symm)

/-- The pipes of an escaped text stand behind the backslashes that escape them. -/
theorem barePipes_escapeCell (before : Char) (cs : List Char) :
    barePipes before (escapeCell cs) = 0 := by
  fun_induction escapeCell cs generalizing before with
  | case1 => rfl
  | case2 cs ih =>
    rw [barePipes, barePipes, if_neg (by simp), if_neg (by simp), ih]
  | case3 c cs hc ih =>
    have hother : (if c = '\r' ∨ c = '\n' then ' ' else c) ≠ '|' := by
      split
      · decide
      · exact hc
    rw [barePipes, if_neg (fun hbare => hother hbare.1), ih]

/-- A text ends in a backslash before it is escaped exactly if it does so afterwards. -/
theorem getLastD_escapeCell {before before' : Char} (h : before = '\\' ↔ before' = '\\')
    (cs : List Char) : (escapeCell cs).getLastD before = '\\' ↔ cs.getLastD before' = '\\' := by
  fun_induction escapeCell cs generalizing before before' with
  | case1 => exact h
  | case2 cs ih =>
    rw [List.getLastD_cons, List.getLastD_cons, List.getLastD_cons]
    exact ih Iff.rfl
  | case3 c cs hc ih =>
    rw [List.getLastD_cons, List.getLastD_cons]
    apply ih
    split
    · rename_i hend
      rcases hend with rfl | rfl <;> decide
    · rfl

theorem barePipes_cell (v : Value) : barePipes '|' (cell v).toList = 0 := by
  rw [cell, String.toList_ofList]
  exact barePipes_escapeCell _ _

theorem newline_not_mem_cell (v : Value) : '\n' ∉ (cell v).toList := by
  rw [cell, String.toList_ofList]
  exact newline_not_mem_escapeCell _

theorem endsInBackslash_cell (v : Value) :
    endsInBackslash (cell v) = endsInBackslash v.display := by
  rw [Bool.eq_iff_iff, ← getLastD_eq_backslash_iff '|' (by decide),
    ← getLastD_eq_backslash_iff '|' (by decide), cell, String.toList_ofList]
  exact getLastD_escapeCell Iff.rfl _

/-! ## Columns -/

/-- There is one column for each field name. -/
theorem length_columns (records : List Record) :
    (columns records).length = (records.flatMap Record.keys).toFinset.card :=
  length_eraseDups _

theorem columns_ne_nil {records : List Record} (h : ∃ record ∈ records, record.keys ≠ []) :
    columns records ≠ [] := by
  obtain ⟨record, hrecord, hkeys⟩ := h
  obtain ⟨name, rest, hcons⟩ := List.exists_cons_of_ne_nil hkeys
  have hname : name ∈ columns records := by
    rw [columns, List.mem_eraseDups, List.mem_flatMap]
    exact ⟨record, hrecord, hcons ▸ List.mem_cons_self⟩
  exact List.ne_nil_of_mem hname

/-! ## Rectangular tables -/

/-- A table of records with one line for each record behind two more, each of them a row with one
cell for each field name. -/
def IsRectangular (records : List Record) (text : String) : Prop :=
  (splitBy (· == '\n') text.toList).length = records.length + 2 ∧
    ∀ row ∈ splitBy (· == '\n') text.toList,
      IsRow (records.flatMap Record.keys).toFinset.card row

/-- Names that make a header: none holds a line end, the pipes in them make up for those that their
own last backslashes hide, and the last name hides none. -/
structure FitHeader (names : List String) : Prop where
  oneLine : ∀ name ∈ names, '\n' ∉ name.toList
  pipes : (names.map (fun name => barePipes '|' name.toList)).sum = names.countP endsInBackslash
  last : ∀ name ∈ names.getLast?, endsInBackslash name = false

variable {records : List Record}

theorem newline_not_mem_line_iff {cells : List String} (h : cells ≠ []) :
    '\n' ∉ (line cells).toList ↔ ∀ cell ∈ cells, '\n' ∉ cell.toList := by
  rw [toList_line h]
  simp

theorem lines_ne_nil (names : List String) (records : List Record) : lines names records ≠ [] :=
  List.cons_ne_nil _ _

theorem resultTable_eq_joinWith (h : ∃ record ∈ records, record.keys ≠ []) :
    resultTable records = joinWith "\n" (lines (columns records) records) := by
  obtain ⟨record, hrecord, -⟩ := h
  have hsome : ¬ records.isEmpty = true := by
    rw [List.isEmpty_iff]
    exact List.ne_nil_of_mem hrecord
  rw [resultTable, if_neg hsome]

/-- A table is rectangular exactly if each of its lines is one line and a row. -/
theorem isRectangular_iff_forall_lines (h : ∃ record ∈ records, record.keys ≠ []) :
    IsRectangular records (resultTable records) ↔
      ∀ line ∈ lines (columns records) records,
        '\n' ∉ line.toList ∧ IsRow (columns records).length line.toList := by
  have hne := lines_ne_nil (columns records) records
  have hlength : (lines (columns records) records).length = records.length + 2 := by
    rw [lines, List.length_cons, List.length_cons, List.length_map]
  rw [IsRectangular, ← length_columns, resultTable_eq_joinWith h, ← hlength,
    length_splitBy_joinWith_iff hne]
  constructor
  · rintro ⟨hone, hrows⟩ line hline
    rw [splitBy_joinWith_eq_map hne hone] at hrows
    exact ⟨hone line hline, hrows _ (List.mem_map_of_mem hline)⟩
  · intro hall
    have hone : ∀ line ∈ lines (columns records) records, '\n' ∉ line.toList :=
      fun line hline => (hall line hline).1
    refine ⟨hone, ?_⟩
    rw [splitBy_joinWith_eq_map hne hone]
    exact List.forall_mem_map.2 (fun line hline => (hall line hline).2)

theorem fitHeader_iff {names : List String} (h : names ≠ []) :
    FitHeader names ↔
      '\n' ∉ (line names).toList ∧ IsRow names.length (line names).toList := by
  rw [newline_not_mem_line_iff h, isRow_line_iff h]
  have hlast : names.getLast? = some (names.getLast h) := List.getLast?_eq_some_getLast h
  constructor
  · rintro ⟨hone, hpipes, hend⟩
    exact ⟨hone, hpipes, hend _ hlast⟩
  · rintro ⟨hone, hpipes, hend⟩
    refine ⟨hone, hpipes, ?_⟩
    rw [hlast]
    rintro name ⟨⟩
    exact hend

/-- The rule under the header is a row. -/
theorem isRow_rule {names : List String} (h : names ≠ []) :
    '\n' ∉ (line (names.map (fun _ => "--"))).toList ∧
      IsRow names.length (line (names.map (fun _ => "--"))).toList := by
  have hcells : names.map (fun _ => "--") ≠ [] := fun hnil => h (List.map_eq_nil_iff.1 hnil)
  have hrow :
      IsRow (names.map (fun _ => "--")).length (line (names.map (fun _ => "--"))).toList := by
    rw [isRow_line_iff_of_barePipes_eq_zero hcells]
    · exact List.forall_mem_map.2 (fun _ _ => rfl)
    · exact List.forall_mem_map.2 (fun _ _ => rfl)
  rw [List.length_map] at hrow
  refine ⟨?_, hrow⟩
  rw [newline_not_mem_line_iff hcells]
  exact List.forall_mem_map.2 (fun _ _ => by decide)

/-- The line of a record is one line, and it is a row exactly if no field is shown with a backslash
at its end. -/
theorem isRow_record_iff {names : List String} (h : names ≠ []) (record : Record) :
    ('\n' ∉ (line (names.map (fun name => cell (record.field name)))).toList ∧
      IsRow names.length (line (names.map (fun name => cell (record.field name)))).toList) ↔
    ∀ name ∈ names, endsInBackslash (record.field name).display = false := by
  have hcells : names.map (fun name => cell (record.field name)) ≠ [] :=
    fun hnil => h (List.map_eq_nil_iff.1 hnil)
  have hrow := isRow_line_iff_of_barePipes_eq_zero hcells
    (List.forall_mem_map.2 (fun name _ => barePipes_cell (record.field name)))
  rw [List.length_map, List.forall_mem_map] at hrow
  simp only [endsInBackslash_cell] at hrow
  rw [hrow, newline_not_mem_line_iff hcells]
  constructor
  · exact fun hall => hall.2
  · exact fun hall =>
      ⟨List.forall_mem_map.2 (fun name _ => newline_not_mem_cell (record.field name)), hall⟩

theorem isRectangular_iff_fitHeader (h : ∃ record ∈ records, record.keys ≠ []) :
    IsRectangular records (resultTable records) ↔
      FitHeader (columns records) ∧ ∀ record ∈ records, ∀ name ∈ columns records,
        endsInBackslash (record.field name).display = false := by
  have hnames := columns_ne_nil h
  rw [isRectangular_iff_forall_lines h, lines, List.forall_mem_cons, List.forall_mem_cons,
    List.forall_mem_map, ← fitHeader_iff hnames]
  simp only [isRow_record_iff hnames]
  constructor
  · rintro ⟨hheader, -, hrecords⟩
    exact ⟨hheader, hrecords⟩
  · rintro ⟨hheader, hrecords⟩
    exact ⟨hheader, isRow_rule hnames, hrecords⟩

/-- A name with a pipe in it makes one cell more of the header than of the record, although the pipe
would be escaped in a cell. -/
theorem not_isRectangular_of_pipe_in_name :
    ¬ IsRectangular [Record.ofList [("a|b", .bool true)]]
      (resultTable [Record.ofList [("a|b", .bool true)]]) := by
  have hfield : ∃ record ∈ [Record.ofList [("a|b", .bool true)]], record.keys ≠ [] :=
    ⟨_, List.mem_cons_self, by decide⟩
  rw [isRectangular_iff_fitHeader hfield]
  rintro ⟨⟨-, hpipes, -⟩, -⟩
  revert hpipes
  decide

/-- **When a table is rectangular.** If there is a field at all, the table of records is rectangular
exactly if the names of the fields make a header and no field is shown with a backslash at its end.
Cut at its bare pipes, such a table gives a header, the rule and the escaped texts of the fields,
one for each column; and the header is the names themselves if there is no pipe in them. -/
theorem isRectangular_resultTable_iff (h : ∃ record ∈ records, record.keys ≠ []) :
    (IsRectangular records (resultTable records) ↔
      FitHeader (columns records) ∧ ∀ record ∈ records, ∀ name ∈ columns records,
        endsInBackslash (record.field name).display = false) ∧
    (IsRectangular records (resultTable records) →
      ∃ header : List (List Char), header.length = (columns records).length ∧
        ((∀ name ∈ columns records, barePipes '|' name.toList = 0) →
          header = (columns records).map String.toList) ∧
        (splitBy (· == '\n') (resultTable records).toList).map (splitAtBarePipes '\n') =
          ([] :: (header ++ [[]])) ::
          ([] :: ((columns records).map (fun _ => "--".toList) ++ [[]])) ::
          records.map (fun record =>
            [] :: ((columns records).map (fun name => (cell (record.field name)).toList) ++
              [[]]))) := by
  have hnames := columns_ne_nil h
  refine ⟨isRectangular_iff_fitHeader h, ?_⟩
  intro hrect
  obtain ⟨hheader, hrecords⟩ := (isRectangular_iff_fitHeader h).1 hrect
  have hlines := (isRectangular_iff_forall_lines h).1 hrect
  obtain ⟨header, hlength, hsplit⟩ := ((fitHeader_iff hnames).1 hheader).2.exists_cells
  refine ⟨header, hlength, ?_, ?_⟩
  · intro hbare
    have hends := (isRow_line_iff_of_barePipes_eq_zero hnames hbare).1
      ((fitHeader_iff hnames).1 hheader).2
    rw [splitAtBarePipes_line hnames hbare hends] at hsplit
    exact (List.append_cancel_right (List.cons.inj hsplit).2).symm
  · have hrule : splitAtBarePipes '\n' (line ((columns records).map (fun _ => "--"))).toList =
        [] :: ((columns records).map (fun _ => "--".toList) ++ [[]]) := by
      apply splitAtBarePipes_line_map hnames
      · exact fun _ _ => rfl
      · exact fun _ _ => rfl
    have hcells : ∀ record ∈ records,
        splitAtBarePipes '\n'
            (line ((columns records).map (fun name => cell (record.field name)))).toList =
          [] ::
            ((columns records).map (fun name => (cell (record.field name)).toList) ++ [[]]) := by
      intro record hrecord
      apply splitAtBarePipes_line_map hnames
      · exact fun name _ => barePipes_cell (record.field name)
      · intro name hname
        rw [endsInBackslash_cell]
        exact hrecords record hrecord name hname
    rw [resultTable_eq_joinWith h, splitBy_joinWith_eq_map (lines_ne_nil _ _)
      (fun line hline => (hlines line hline).1), lines, List.map_cons, List.map_cons,
      List.map_cons, List.map_cons, hsplit, hrule, List.map_map, List.map_map]
    congr 2
    exact List.map_congr_left hcells

/-- A pipe and a line end in a value do no harm. -/
theorem isRectangular_of_pipe_in_value :
    (∃ record ∈ [Record.ofList [("a", .string "x|y\nz"), ("b", .null)]], record.keys ≠ []) ∧
    IsRectangular [Record.ofList [("a", .string "x|y\nz"), ("b", .null)]]
      (resultTable [Record.ofList [("a", .string "x|y\nz"), ("b", .null)]]) := by
  have hfield : ∃ record ∈ [Record.ofList [("a", .string "x|y\nz"), ("b", .null)]],
      record.keys ≠ [] := ⟨_, List.mem_cons_self, by decide⟩
  refine ⟨hfield, (isRectangular_resultTable_iff hfield).1.2 ⟨⟨?_, ?_, ?_⟩, ?_⟩⟩ <;> decide

end ResultTable

end NoteQuery
