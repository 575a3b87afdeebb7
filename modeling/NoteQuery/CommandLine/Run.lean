import NoteQuery.CommandLine.Arguments
import NoteQuery.Document.Evaluation
import NoteQuery.Document.Scrub
import NoteQuery.Json.Reader
import NoteQuery.Settings.Load
import NoteQuery.Workspace.LineDiff

/-! # Runs

What a command does, as a function of the workspace and the environment: what it prints, what the
files say afterwards, and how it fails if it does. Settings and records are read before anything
else. Documents are evaluated one after the other; what has been printed and written before a
failure stays.
-/

namespace NoteQuery.CommandLine

/-- Why a run fails. -/
inductive Failure where
  | settings (cause : SettingsError)
  /-- Nothing says where the records are. -/
  | noData
  /-- A file cannot be read. -/
  | unreadable (path : String)
  /-- The records are not in JSON. -/
  | malformedData (path : String)
  /-- The records are no tables, or a query has no answer. -/
  | query (cause : QueryError)
  /-- A path leads nowhere. -/
  | missing (path : String)
  /-- Query directives failed. -/
  | directives (count : Nat)

/-- Wording of a failure. -/
def Failure.message : Failure → String
  | settings cause => cause.message
  | noData =>
    "Configuration error: no record data given; pass --data, set " ++ dataVariable ++
      " or add 'data' to " ++ settingsFileName
  | unreadable path => "IO error: " ++ path ++ " cannot be read"
  | malformedData path => "JSON error: " ++ path ++ " is malformed"
  | query cause => cause.message
  | missing path => "IO error: " ++ path ++ " does not exist"
  | directives count => toString count ++ " query directive(s) failed"

/-- How far a run has come. -/
structure Progress where
  workspace : Workspace
  /-- What has been printed. -/
  output : String := ""
  /-- What has been reported about failing directives. -/
  report : String := ""
  /-- Number of failing directives. -/
  failures : Nat := 0

/-- A run that has ended. -/
structure Run where
  progress : Progress
  failure : Option Failure

namespace Progress

/-- The run that ends here without failure. -/
def succeed (p : Progress) : Run := ⟨p, none⟩

/-- The run that fails here. -/
def fail (p : Progress) (failure : Failure) : Run := ⟨p, some failure⟩

/-- Prints a text. -/
def print (p : Progress) (text : String) : Progress := { p with output := p.output ++ text }

end Progress

/-! ## Records -/

/-- The tables in a file. -/
def tablesIn (w : Workspace) (path : String) : Except Failure Tables :=
  match w.content? path with
  | none => .error (.unreadable path)
  | some text =>
    match Json.ofText? text with
    | none => .error (.malformedData path)
    | some tree => (Tables.ofJson tree).mapError (fun e => .query (.data e))

/-- The tables that a run works on: those in the given file, or else in the one that the settings
name. -/
def loadTables (w : Workspace) (settings : Settings) (directory : String) (data : Option String) :
    Except Failure Tables :=
  match data.or (settings.dataPath directory) with
  | none => .error .noData
  | some path => tablesIn w path

/-! ## Documents -/

/-- The documents under a path: the file itself, or the documents below a directory. -/
def documentsUnder (w : Workspace) (settings : Settings) (path : String) :
    Except Failure (List String) :=
  if w.isFile path then .ok [path]
  else if w.isDirectory path then .ok ((w.filesBelow path).filter settings.isDocument)
  else .error (.missing path)

/-- What is reported about a directive that fails. -/
def reportOf (path : String) (o : Outcome) : String :=
  match o.result with
  | .ok _ => ""
  | .error e => "✗ " ++ path ++ ": " ++ o.query ++ "\n    " ++ e.message ++ "\n"

/-- What is printed about an evaluated document. -/
def shownDocument (mode : EvaluationMode) (path text : String) (e : Evaluation) : String :=
  let shown :=
    if mode.diff then
      if e.text = text then "" else path ++ "\n" ++ LineDiff.shown text e.text
    else if mode.write then ""
    else e.text
  let updated :=
    if mode.write ∧ e.text ≠ text then
      "✓ Updated " ++ path ++ " (" ++ toString e.outcomes.length ++ " queries)\n"
    else ""
  shown ++ updated

/-- Evaluates a document that says `text`. -/
def Progress.evaluate (p : Progress) (tables : Tables) (mode : EvaluationMode)
    (path text : String) : Progress :=
  let e := tables.evaluateText none text
  { workspace :=
      if mode.write ∧ e.text ≠ text then p.workspace.write path e.text else p.workspace
    output := p.output ++ shownDocument mode path text e
    report := p.report ++ String.join (e.outcomes.map (reportOf path))
    failures := p.failures + e.failures }

/-- Evaluates documents, up to the first one that cannot be read. -/
def evaluateDocuments (tables : Tables) (mode : EvaluationMode) (p : Progress) : List String → Run
  | [] => p.succeed
  | path :: paths =>
    match p.workspace.content? path with
    | none => p.fail (.unreadable path)
    | some text => evaluateDocuments tables mode (p.evaluate tables mode path text) paths

/-- Evaluates the documents under paths, up to the first failure. -/
def evaluatePaths (tables : Tables) (settings : Settings) (mode : EvaluationMode) (p : Progress) :
    List String → Run
  | [] => p.succeed
  | path :: paths =>
    match documentsUnder p.workspace settings path with
    | .error failure => p.fail failure
    | .ok documents =>
      let run := evaluateDocuments tables mode p documents
      match run.failure with
      | some _ => run
      | none => evaluatePaths tables settings mode run.progress paths

/-- Fails a run that has come to its end with failing directives. -/
def Run.failIfAnyFailed (run : Run) : Run :=
  match run.failure with
  | some _ => run
  | none =>
    if run.progress.failures = 0 then run
    else run.progress.fail (.directives run.progress.failures)

/-! ## Commands -/

/-- Runs a command. -/
def runCommand (w : Workspace) (settings : Settings) (directory : String) (command : Command) :
    Run :=
  let p : Progress := { workspace := w }
  match command with
  | .query text data =>
    match loadTables w settings directory data with
    | .error failure => p.fail failure
    | .ok tables =>
      match tables.answerText text with
      | .error e => p.fail (.query e)
      | .ok records => (p.print ((recordsToJson records).pretty ++ "\n")).succeed
  | .evaluate paths data mode =>
    match loadTables w settings directory data with
    | .error failure => p.fail failure
    | .ok tables => (evaluatePaths tables settings mode p paths).failIfAnyFailed
  | .scrub path =>
    match w.content? path with
    | none => p.fail (.unreadable path)
    | some text => (p.print (scrubText text)).succeed

/-- Path of the working directory. -/
def workingPath (w : Workspace) : String := "/" ++ Text.joinWith "/" w.workingDirectory

/-- Runs what a command line asks for. -/
def run (w : Workspace) (env : Environment) (request : Request) : Run :=
  let directory := request.directory.getD (workingPath w)
  match Settings.load w env directory with
  | .error cause => Progress.fail { workspace := w } (.settings cause)
  | .ok settings => runCommand w settings directory request.command

end NoteQuery.CommandLine
