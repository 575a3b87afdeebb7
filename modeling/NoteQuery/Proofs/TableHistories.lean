import NoteQuery.Query.Error
import NoteQuery.Tables
import Mathlib.Data.List.DropRight
import Mathlib.Data.List.Forall2

/-!
# Tables over whole histories

Tables come about step by step: a step gives a table a list of records, or pushes one record to it.
Of a history the tables show, for each table that occurs in it, the list that was given last and
behind it what was pushed since then (`Tables.Reflects`). One step is `records?_apply`; a history is
followed from its end.

Reading a JSON tree is such a history too, one step for each member of the tree. It fails exactly if
there is something in the tree that is no table or no record, and names the first of these in the
order of the text (`FirstFault`). `ofJson_reflects` puts both together.
-/

namespace NoteQuery

/-! ## Steps -/

/-- A step in the history of tables. -/
inductive TableStep where
  /-- A table is given a list of records. -/
  | add (table : String) (records : List Record)
  /-- A record is pushed to a table. -/
  | push (table : String) (record : Record)

namespace TableStep

/-- The table that a step is about. -/
def table : TableStep → String
  | add table _ => table
  | push table _ => table

/-- The list that a step gives to a table. -/
def given? (table : String) : TableStep → Option (List Record)
  | add other records => if other = table then some records else none
  | push _ _ => none

/-- The record that a step pushes to a table. -/
def pushed? (table : String) : TableStep → Option Record
  | add _ _ => none
  | push other record => if other = table then some record else none

variable {table : String}

theorem given?_of_table_ne {step : TableStep} (h : step.table ≠ table) :
    step.given? table = none := by
  cases step with
  | add other records => exact if_neg h
  | push other record => rfl

theorem pushed?_of_table_ne {step : TableStep} (h : step.table ≠ table) :
    step.pushed? table = none := by
  cases step with
  | add other records => rfl
  | push other record => exact if_neg h

end TableStep

namespace Tables

/-- Tables after a step. -/
def apply (tables : Tables) : TableStep → Tables
  | .add table records => tables.addTable table records
  | .push table record => tables.push table record

/-- Tables after steps. -/
def run (tables : Tables) (steps : List TableStep) : Tables := steps.foldl apply tables

variable {tables : Tables} {steps : List TableStep} {table : String}

theorem run_append (tables : Tables) (steps others : List TableStep) :
    tables.run (steps ++ others) = (tables.run steps).run others := List.foldl_append

theorem run_concat (tables : Tables) (steps : List TableStep) (step : TableStep) :
    tables.run (steps ++ [step]) = (tables.run steps).apply step := run_append tables steps [step]

/-- A step changes the records of its own table only: to the list that it gives, or by the record
that it pushes. -/
theorem records?_apply (tables : Tables) (step : TableStep) (table : String) :
    (tables.apply step).records? table =
      if step.table = table then
        some ((step.given? table).getD ((tables.records? table).getD []) ++
          (step.pushed? table).toList)
      else tables.records? table := by
  cases step with
  | add other records =>
    have hadd : (tables.apply (.add other records)).records? table =
        if other = table then some records else tables.records? table :=
      Entries.find?_insertSorted other records tables.entries table
    rw [hadd]
    by_cases htable : other = table <;>
      simp [TableStep.table, TableStep.given?, TableStep.pushed?, htable]
  | push other record =>
    have hpush : (tables.apply (.push other record)).records? table =
        if other = table then some ((tables.records? other).getD [] ++ [record])
        else tables.records? table :=
      Entries.find?_insertSorted other _ tables.entries table
    rw [hpush]
    by_cases htable : other = table <;>
      simp [TableStep.table, TableStep.given?, TableStep.pushed?, htable]

/-! ## Histories -/

/-- The list that was given to a table last; the empty list if none was. -/
def lastGiven (table : String) (steps : List TableStep) : List Record :=
  ((steps.filterMap (·.given? table)).getLast?).getD []

/-- The steps behind the last one that gives a table a list; all of them if none does. -/
def sinceGiven (table : String) (steps : List TableStep) : List TableStep :=
  steps.rtakeWhile (fun step => (step.given? table).isNone)

/-- The records that steps push to a table, in order. -/
def pushed (table : String) (steps : List TableStep) : List Record :=
  steps.filterMap (·.pushed? table)

/-- What a history makes of a table that occurs in it. -/
def remembered (table : String) (steps : List TableStep) : List Record :=
  lastGiven table steps ++ pushed table (sinceGiven table steps)

/-- A further step gives a table a new list, or leaves it as it is and pushes what it pushes. -/
theorem remembered_concat (table : String) (steps : List TableStep) (step : TableStep) :
    remembered table (steps ++ [step]) =
      (step.given? table).getD (remembered table steps) ++ (step.pushed? table).toList := by
  unfold remembered lastGiven sinceGiven pushed
  rw [List.filterMap_append, List.rtakeWhile_concat]
  cases hgiven : step.given? table with
  | some records =>
    have hnone : step.pushed? table = none := by
      cases step with
      | add other records => rfl
      | push other record => cases hgiven
    simp [hgiven, hnone]
  | none =>
    have hpushed : [step].filterMap (·.pushed? table) = (step.pushed? table).toList := by
      rw [List.filterMap_cons]
      cases step.pushed? table <;> rfl
    simp [hgiven, List.filterMap_append, hpushed]

/-- Steps about other tables leave nothing behind. -/
theorem remembered_eq_nil (h : ∀ step ∈ steps, step.table ≠ table) :
    remembered table steps = [] := by
  induction steps using List.reverseRecOn with
  | nil => rfl
  | append_singleton steps step ih =>
    obtain ⟨hsteps, hstep⟩ := List.forall_mem_append.1 h
    have hother := hstep step List.mem_cons_self
    rw [remembered_concat, TableStep.given?_of_table_ne hother,
      TableStep.pushed?_of_table_ne hother, ih hsteps]
    rfl

/-- What a history leaves of a table. -/
theorem records?_run_empty (steps : List TableStep) (table : String) :
    (empty.run steps).records? table =
      if ∃ step ∈ steps, step.table = table then some (remembered table steps) else none := by
  induction steps using List.reverseRecOn with
  | nil => simp [run, records?, empty, Entries.find?]
  | append_singleton steps step ih =>
    have hold : ((empty.run steps).records? table).getD [] = remembered table steps := by
      rw [ih]
      split
      · rfl
      · rename_i hnone
        exact (remembered_eq_nil (fun step hstep htable => hnone ⟨step, hstep, htable⟩)).symm
    rw [run_concat, records?_apply]
    by_cases hstep : step.table = table
    · have hsome : ∃ other ∈ steps ++ [step], other.table = table := ⟨step, by simp, hstep⟩
      rw [if_pos hstep, if_pos hsome, hold, remembered_concat]
    · have hsame : (∃ other ∈ steps ++ [step], other.table = table) ↔
          ∃ other ∈ steps, other.table = table := by simp [or_and_right, exists_or, hstep]
      have hremembered : remembered table (steps ++ [step]) = remembered table steps := by
        rw [remembered_concat, TableStep.given?_of_table_ne hstep,
          TableStep.pushed?_of_table_ne hstep]
        exact List.append_nil _
      rw [if_neg hstep, ih, hremembered]
      simp only [hsame]

/-- A history leaves of a table what the steps about this table alone leave of it. -/
theorem records?_run_filter (tables : Tables) (steps : List TableStep) (table : String) :
    (tables.run steps).records? table =
      (tables.run (steps.filter (·.table == table))).records? table := by
  induction steps using List.reverseRecOn with
  | nil => rfl
  | append_singleton steps step ih =>
    rw [run_concat, records?_apply, ih, List.filter_append]
    by_cases hstep : step.table = table
    · have hkept : [step].filter (·.table == table) = [step] := by simp [hstep]
      rw [hkept, run_concat, records?_apply]
    · have hdropped : [step].filter (·.table == table) = [] := by simp [hstep]
      rw [hdropped, List.append_nil, if_neg hstep]

theorem mem_names_iff (tables : Tables) (table : String) :
    table ∈ tables.names ↔ tables.records? table ≠ none := by
  rw [records?, ne_eq, Entries.find?_eq_none_iff, not_not]
  rfl

/-- Tables show a history: each table that occurs in it has the list that it was given last, or none
to begin with, and behind it the records that were pushed since. -/
structure Reflects (tables : Tables) (steps : List TableStep) : Prop where
  records?_eq : ∀ table, tables.records? table =
    if ∃ step ∈ steps, step.table = table then
      some (lastGiven table steps ++ pushed table (sinceGiven table steps))
    else none
  unknown_iff : ∀ table, tables.records? table = none ↔ ∀ step ∈ steps, step.table ≠ table
  /-- The steps about other tables do not matter. -/
  unaffected : ∀ table,
    tables.records? table = (empty.run (steps.filter (·.table == table))).records? table
  ascending_names : tables.names.Pairwise (· < ·)
  mem_names_iff : ∀ table, table ∈ tables.names ↔ ∃ step ∈ steps, step.table = table

theorem reflects_run_empty (steps : List TableStep) : (empty.run steps).Reflects steps := by
  have hunknown : ∀ table,
      (empty.run steps).records? table = none ↔ ∀ step ∈ steps, step.table ≠ table := by
    intro table
    rw [records?_run_empty, ite_eq_right_iff]
    simp
  exact {
    records?_eq := records?_run_empty steps
    unknown_iff := hunknown
    unaffected := records?_run_filter empty steps
    ascending_names := (empty.run steps).ascending
    mem_names_iff := fun table => by
      rw [mem_names_iff, ne_eq, hunknown]
      simp }

end Tables

/-! ## Tables in JSON trees -/

namespace Json

/-- An object, which is a record. -/
def IsObject (tree : Json) : Prop := ∃ members, tree = .object members

/-- An array of objects, which is a table. -/
def IsTable (tree : Json) : Prop := ∃ rows, tree = .array rows ∧ ∀ row ∈ rows, row.IsObject

/-- An object whose members are tables. -/
def HoldsTables (tree : Json) : Prop :=
  ∃ members, tree = .object members ∧ ∀ member ∈ members, member.2.IsTable

/-- The step that gives a table the records of a member. -/
def IsStepOf (member : String × Json) (step : TableStep) : Prop :=
  ∃ rows records, member.2 = .array rows ∧
    List.Forall₂ (fun row record => Record.ofJson row = .ok record) rows records ∧
    step = .add member.1 records

/-- The steps of all members, in order. -/
def Gives (tree : Json) (steps : List TableStep) : Prop :=
  ∃ members, tree = .object members ∧ List.Forall₂ IsStepOf members steps

/-- The first thing in a tree that keeps it from holding tables. -/
inductive FirstFault : Json → DataError → Prop
  /-- The whole is no object. -/
  | data {tree : Json} (htree : ¬ tree.IsObject) : FirstFault tree .dataNotObject
  /-- A member is no array, and the members in front of it are tables. -/
  | table {before after : List (String × Json)} {name : String} {value : Json}
    (hbefore : ∀ member ∈ before, member.2.IsTable) (hvalue : ∀ rows, value ≠ .array rows) :
    FirstFault (.object (before ++ (name, value) :: after)) (.tableNotArray name)
  /-- An item of a member is no object, the items in front of it are, and the members in front are
  tables. -/
  | record {before after : List (String × Json)} {name : String} {rows others : List Json}
    {row : Json}
    (hbefore : ∀ member ∈ before, member.2.IsTable) (hrows : ∀ other ∈ rows, other.IsObject)
    (hrow : ¬ row.IsObject) :
    FirstFault (.object (before ++ (name, .array (rows ++ row :: others)) :: after))
      (.recordNotObject row)

end Json

open Json

/-- A property holds of all items, or there is a first one that lacks it. -/
theorem forall_mem_or_exists_first {α : Type} (p : α → Prop) (items : List α) :
    (∀ item ∈ items, p item) ∨ ∃ before item after, items = before ++ item :: after ∧
      (∀ other ∈ before, p other) ∧ ¬ p item := by
  classical
  cases hfind : items.find? (fun item => !decide (p item)) with
  | none => exact .inl (by simpa using hfind)
  | some item =>
    obtain ⟨hitem, before, after, rfl, hbefore⟩ := List.find?_eq_some_iff_append.1 hfind
    exact .inr ⟨before, item, after, rfl, by simpa using hbefore, by simpa using hitem⟩

namespace Record

theorem ofJson_of_not_isObject {tree : Json} (h : ¬ tree.IsObject) :
    ofJson tree = .error (.recordNotObject tree) := by
  cases tree with
  | object members => exact absurd ⟨members, rfl⟩ h
  | null | bool _ | number _ | string _ | array _ => rfl

/-- Objects are read as records, one by one, whatever comes behind them. -/
theorem ofJsonItems_append {rows : List Json} (h : ∀ row ∈ rows, row.IsObject) :
    ∃ records, List.Forall₂ (fun row record => ofJson row = .ok record) rows records ∧
      ∀ others, ofJsonItems (rows ++ others) = (ofJsonItems others).map (records ++ ·) := by
  induction rows with
  | nil =>
    refine ⟨[], .nil, fun others => ?_⟩
    rw [List.nil_append]
    cases ofJsonItems others <;> rfl
  | cons row rows ih =>
    obtain ⟨⟨members, rfl⟩, hrows⟩ := List.forall_mem_cons.1 h
    obtain ⟨records, hrecords, happend⟩ := ih hrows
    refine ⟨ofList (Value.ofJsonMembers members) :: records, .cons rfl hrecords, fun others => ?_⟩
    rw [List.cons_append, ofJsonItems, happend]
    cases ofJsonItems others <;> rfl

theorem ofJsonItems_of_first {rows others : List Json} {row : Json}
    (hrows : ∀ row ∈ rows, row.IsObject) (hrow : ¬ row.IsObject) :
    ofJsonItems (rows ++ row :: others) = .error (.recordNotObject row) := by
  obtain ⟨records, -, happend⟩ := ofJsonItems_append hrows
  rw [happend, ofJsonItems, ofJson_of_not_isObject hrow]
  rfl

end Record

namespace Tables

/-- Members that are tables are added one by one, whatever comes behind them. -/
theorem addMembers_append {members : List (String × Json)}
    (h : ∀ member ∈ members, member.2.IsTable) :
    ∃ steps, List.Forall₂ IsStepOf members steps ∧
      ∀ (tables : Tables) (others : List (String × Json)),
        addMembers tables (members ++ others) = addMembers (tables.run steps) others := by
  induction members with
  | nil => exact ⟨[], .nil, fun _ _ => rfl⟩
  | cons member members ih =>
    obtain ⟨name, value⟩ := member
    obtain ⟨⟨rows, hvalue, hrows⟩, hmembers⟩ := List.forall_mem_cons.1 h
    obtain rfl : value = .array rows := hvalue
    obtain ⟨records, hrecords, happend⟩ := Record.ofJsonItems_append hrows
    obtain ⟨steps, hsteps, hrest⟩ := ih hmembers
    have hread : Record.ofJsonItems rows = .ok records := by
      have hall := happend []
      rw [List.append_nil] at hall
      rw [hall, Record.ofJsonItems]
      exact congrArg Except.ok (List.append_nil records)
    refine ⟨.add name records :: steps, .cons ⟨rows, records, rfl, hrecords, rfl⟩ hsteps, ?_⟩
    intro tables others
    rw [List.cons_append, addMembers, hread, ok_bind]
    exact hrest (tables.addTable name records) others

/-- A tree that holds tables is read as the tables of its steps. -/
theorem ofJson_of_holdsTables {tree : Json} (h : tree.HoldsTables) :
    ∃ steps, tree.Gives steps ∧ ofJson tree = .ok (empty.run steps) := by
  obtain ⟨members, rfl, hmembers⟩ := h
  obtain ⟨steps, hsteps, happend⟩ := addMembers_append hmembers
  refine ⟨steps, ⟨members, rfl, hsteps⟩, ?_⟩
  have hall := happend empty []
  rw [List.append_nil] at hall
  exact hall

/-- A tree is refused for its first fault. -/
theorem ofJson_of_firstFault {tree : Json} {e : DataError} (h : FirstFault tree e) :
    ofJson tree = .error e := by
  cases h with
  | data htree =>
    cases tree with
    | object members => exact absurd ⟨members, rfl⟩ htree
    | null | bool _ | number _ | string _ | array _ => rfl
  | @table before after name value hbefore hvalue =>
    obtain ⟨steps, -, happend⟩ := addMembers_append hbefore
    rw [ofJson, happend]
    cases value with
    | array rows => exact absurd rfl (hvalue rows)
    | null | bool _ | number _ | string _ | object _ => rfl
  | @record before after name rows others row hbefore hrows hrow =>
    obtain ⟨steps, -, happend⟩ := addMembers_append hbefore
    rw [ofJson, happend, addMembers, Record.ofJsonItems_of_first hrows hrow]
    rfl

theorem holdsTables_or_exists_firstFault (tree : Json) :
    tree.HoldsTables ∨ ∃ e, FirstFault tree e := by
  by_cases htree : tree.IsObject
  · obtain ⟨members, rfl⟩ := htree
    rcases forall_mem_or_exists_first (fun member => member.2.IsTable) members with
      hall | ⟨before, ⟨name, value⟩, after, rfl, hbefore, hmember⟩
    · exact .inl ⟨members, rfl, hall⟩
    · by_cases hvalue : ∃ rows, value = .array rows
      · obtain ⟨rows, rfl⟩ := hvalue
        rcases forall_mem_or_exists_first IsObject rows with
          hall | ⟨rows, row, others, rfl, hrows, hrow⟩
        · exact absurd ⟨rows, rfl, hall⟩ hmember
        · exact .inr ⟨_, .record hbefore hrows hrow⟩
      · exact .inr ⟨_, .table hbefore (fun rows hrows => hvalue ⟨rows, hrows⟩)⟩
  · exact .inr ⟨_, .data htree⟩

/-- **Tables show their history.** A JSON tree is read as tables exactly if it is an object whose
members are arrays of objects, and otherwise it is refused for the first thing that is not. Whatever
steps follow, on no tables or on those that were read, each table has the list that it was given
last, by a step or by the tree, and behind it the records that were pushed to it since then. -/
theorem ofJson_reflects (tree : Json) (steps : List TableStep) :
    ((∃ tables, ofJson tree = .ok tables) ↔ tree.HoldsTables) ∧
      (∀ e, ofJson tree = .error e ↔ FirstFault tree e) ∧
      (empty.run steps).Reflects steps ∧
      ∀ tables, ofJson tree = .ok tables →
        ∃ given, tree.Gives given ∧ (tables.run steps).Reflects (given ++ steps) := by
  rcases holdsTables_or_exists_firstFault tree with hholds | ⟨first, hfault⟩
  · obtain ⟨given, hgiven, hread⟩ := ofJson_of_holdsTables hholds
    refine ⟨iff_of_true ⟨_, hread⟩ hholds, fun e => ?_, reflects_run_empty steps, ?_⟩
    · have hnone : ¬ FirstFault tree e :=
        fun hfault => nomatch hread.symm.trans (ofJson_of_firstFault hfault)
      exact iff_of_false (fun herror => nomatch hread.symm.trans herror) hnone
    · intro tables htables
      obtain rfl := Except.ok.inj (hread.symm.trans htables)
      rw [← run_append]
      exact ⟨given, hgiven, reflects_run_empty (given ++ steps)⟩
  · have herror := ofJson_of_firstFault hfault
    have hnone : ¬ ∃ tables, ofJson tree = .ok tables :=
      fun ⟨tables, htables⟩ => nomatch herror.symm.trans htables
    refine ⟨iff_of_false hnone ?_, fun e => ⟨fun he => ?_, ofJson_of_firstFault⟩,
      reflects_run_empty steps, fun tables htables => absurd ⟨tables, htables⟩ hnone⟩
    · intro hholds
      obtain ⟨given, -, hread⟩ := ofJson_of_holdsTables hholds
      exact hnone ⟨_, hread⟩
    · obtain rfl := Except.error.inj (herror.symm.trans he)
      exact hfault

/-- A tree with two tables, one of them empty. -/
def twoTables : Json :=
  .object [("task", .array [.object [("name", .string "write")]]), ("page", .array [])]

/-- Steps that give one table a new list, push to it, and make a table by pushing to it. -/
def laterSteps : List TableStep :=
  [.push "task" (Record.ofList [("name", .string "lost")]), .add "task" [Record.empty],
    .push "note" (Record.ofList [("name", .string "kept")]),
    .push "task" (Record.ofList [("name", .string "test")])]

/-- What a member gave is replaced with what was pushed behind it, and the empty table stays. -/
theorem ofJson_reflects_twoTables :
    ∃ tables, ofJson twoTables = .ok tables ∧ twoTables.HoldsTables ∧
      (∃ given, twoTables.Gives given ∧ (tables.run laterSteps).Reflects (given ++ laterSteps)) ∧
      (tables.run laterSteps).records? "task" =
        some [Record.empty, Record.ofList [("name", .string "test")]] ∧
      (tables.run laterSteps).names = ["note", "page", "task"] := by
  obtain ⟨hread, -, -, hreflects⟩ := ofJson_reflects twoTables laterSteps
  exact ⟨_, rfl, hread.1 ⟨_, rfl⟩, hreflects _ rfl, rfl, rfl⟩

end Tables

end NoteQuery
