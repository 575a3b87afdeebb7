import NoteQuery.CommandLine.Run
import NoteQuery.Proofs.Layouts
import Mathlib.Algebra.Ring.Nat

/-!
# Runs over many documents

A run over paths is a run over the documents that they lead to, one after the other
(`evaluatePaths_eq`). If these are all texts and no two of them are the same file, every one of them
is evaluated as it was before the run: what a step does to one document is neither undone nor seen
by the others (`evaluated_evaluateDocuments`). Failing directives are counted and end the run only
behind the last document (`run_evaluate`).
-/

namespace NoteQuery.CommandLine

open Workspace

variable {tables : Tables} {settings : Settings} {mode : EvaluationMode}

/-! ## One document -/

/-- The evaluation of the document that a path leads to. -/
def evaluationOf (tables : Tables) (w : Workspace) (path : String) : Evaluation :=
  tables.evaluateText none ((w.content? path).getD "")

/-- What is printed about a document, as it stands in a workspace. -/
def shownAt (tables : Tables) (mode : EvaluationMode) (w : Workspace) (path : String) : String :=
  shownDocument mode path ((w.content? path).getD "") (evaluationOf tables w path)

theorem evaluationOf_congr {w w' : Workspace} {path : String}
    (h : w'.content? path = w.content? path) :
    evaluationOf tables w' path = evaluationOf tables w path := by
  rw [evaluationOf, evaluationOf, h]

theorem shownAt_congr {w w' : Workspace} {path : String} (h : w'.content? path = w.content? path) :
    shownAt tables mode w' path = shownAt tables mode w path := by
  rw [shownAt, shownAt, evaluationOf_congr h, h]

section

variable (p : Progress) (path text : String)

theorem workspace_evaluate :
    (p.evaluate tables mode path text).workspace =
      if mode.write ∧ (tables.evaluateText none text).text ≠ text then
        p.workspace.write path (tables.evaluateText none text).text
      else p.workspace :=
  rfl

theorem sameLayout_evaluate :
    p.workspace.SameLayout (p.evaluate tables mode path text).workspace := by
  rw [workspace_evaluate]
  split
  · exact sameLayout_write p.workspace path _
  · exact SameLayout.refl _

/-- Without the right to write a step leaves the workspace alone. -/
theorem workspace_evaluate_of_not_write (hwrite : mode.write = false) :
    (p.evaluate tables mode path text).workspace = p.workspace := by
  rw [workspace_evaluate, if_neg (by simp [hwrite])]

/-- A step leaves the files alone that the document is not. -/
theorem fileAt?_evaluate {place : Place} (hplace : some place ≠ p.workspace.place? path) :
    (p.evaluate tables mode path text).workspace.fileAt? place = p.workspace.fileAt? place := by
  rw [workspace_evaluate]
  split
  · exact fileAt?_write p.workspace _ hplace
  · rfl

/-- Documents at other places say behind a step what they said before it. -/
theorem content?_evaluate_of_mem {documents : List String}
    (hother : p.workspace.place? path ∉ documents.map p.workspace.place?) :
    ∀ other ∈ documents,
      (p.evaluate tables mode path text).workspace.content? other = p.workspace.content? other := by
  intro other hmem
  refine (sameLayout_evaluate p path text).content?_eq (fun place hplace => ?_)
  refine fileAt?_evaluate p path text (fun hsame => hother ?_)
  rw [← hsame, ← hplace]
  exact List.mem_map_of_mem hmem

/-- Behind a step that may write, the document has its evaluated text, whether it has been written
or was so before. -/
theorem content?_evaluate (hwrite : mode.write = true) (h : p.workspace.content? path = some text) :
    (p.evaluate tables mode path text).workspace.content? path =
      some (tables.evaluateText none text).text := by
  rw [workspace_evaluate]
  by_cases hsame : (tables.evaluateText none text).text = text
  · rw [if_neg (fun hchanged => hchanged.2 hsame), h, hsame]
  · rw [if_pos ⟨hwrite, hsame⟩, content?_write p.workspace (isFile_of_content? _ h)]

end

/-! ## Documents one after the other -/

/-- What a run that reaches its end has done to the documents that it has met one after the
other. -/
structure Evaluated (tables : Tables) (mode : EvaluationMode) (before after : Progress)
    (documents : List String) : Prop where
  sameLayout : before.workspace.SameLayout after.workspace
  workspace_eq : mode.write = false → after.workspace = before.workspace
  content?_eq : mode.write = true → ∀ path ∈ documents,
    after.workspace.content? path = some (evaluationOf tables before.workspace path).text
  fileAt?_eq : ∀ place, some place ∉ documents.map before.workspace.place? →
    after.workspace.fileAt? place = before.workspace.fileAt? place
  output_eq : after.output =
    before.output ++ String.join (documents.map (shownAt tables mode before.workspace))
  failures_eq : after.failures =
    before.failures +
      (documents.map (fun path => (evaluationOf tables before.workspace path).failures)).sum

namespace Evaluated

protected theorem nil (p : Progress) : Evaluated tables mode p p [] where
  sameLayout := SameLayout.refl _
  workspace_eq _ := rfl
  content?_eq _ _ h := absurd h List.not_mem_nil
  fileAt?_eq _ _ := rfl
  output_eq := by simp only [List.map_nil, String.join_nil, String.append_empty]
  failures_eq := rfl

/-- A step and a run over other documents make a run. -/
protected theorem cons {p after : Progress} {path text : String} {documents : List String}
    (h : p.workspace.content? path = some text)
    (hother : p.workspace.place? path ∉ documents.map p.workspace.place?)
    (hrest : Evaluated tables mode (p.evaluate tables mode path text) after documents) :
    Evaluated tables mode p after (path :: documents) := by
  have hlayout : p.workspace.SameLayout (p.evaluate tables mode path text).workspace :=
    sameLayout_evaluate p path text
  have hevaluation : evaluationOf tables p.workspace path = tables.evaluateText none text := by
    rw [evaluationOf, h, Option.getD_some]
  have hunseen : ∀ other ∈ documents,
      (p.evaluate tables mode path text).workspace.content? other = p.workspace.content? other :=
    content?_evaluate_of_mem p path text hother
  have hshown : documents.map (shownAt tables mode (p.evaluate tables mode path text).workspace) =
      documents.map (shownAt tables mode p.workspace) :=
    List.map_congr_left (fun other hmem => shownAt_congr (hunseen other hmem))
  have hfailures :
      documents.map (fun other =>
        (evaluationOf tables (p.evaluate tables mode path text).workspace other).failures) =
      documents.map (fun other => (evaluationOf tables p.workspace other).failures) :=
    List.map_congr_left (fun other hmem => by rw [evaluationOf_congr (hunseen other hmem)])
  exact {
    sameLayout := hlayout.trans hrest.sameLayout
    workspace_eq := fun hwrite =>
      (hrest.workspace_eq hwrite).trans (workspace_evaluate_of_not_write p path text hwrite)
    content?_eq := by
      intro hwrite other hmem
      rcases List.mem_cons.1 hmem with rfl | hmem
      · rw [hevaluation, ← content?_evaluate p other text hwrite h]
        -- the rest of the run does not come back to the document
        refine hrest.sameLayout.content?_eq (fun place hplace => hrest.fileAt?_eq place ?_)
        rwa [← hplace, hlayout.place?_eq]
      · rw [hrest.content?_eq hwrite other hmem, evaluationOf_congr (hunseen other hmem)]
    fileAt?_eq := by
      intro place hplace
      rw [List.map_cons, List.mem_cons, not_or] at hplace
      rw [hrest.fileAt?_eq place (by rw [hlayout.place?_eq]; exact hplace.2),
        fileAt?_evaluate p path text hplace.1]
    output_eq := by
      rw [hrest.output_eq, hshown, List.map_cons, String.join_cons, ← String.append_assoc, shownAt,
        hevaluation, h, Option.getD_some]
      rfl
    failures_eq := by
      rw [hrest.failures_eq, hfailures, List.map_cons, List.sum_cons, ← Nat.add_assoc, hevaluation]
      rfl }

end Evaluated

/-- A run over texts that are different files reaches its end, however many directives fail. -/
theorem evaluated_evaluateDocuments (tables : Tables) (mode : EvaluationMode) (p : Progress)
    (documents : List String)
    (hreadable : ∀ path ∈ documents, (p.workspace.content? path).isSome)
    (honce : (documents.map p.workspace.place?).Nodup) :
    ∃ after, evaluateDocuments tables mode p documents = after.succeed ∧
      Evaluated tables mode p after documents := by
  induction documents generalizing p with
  | nil => exact ⟨p, rfl, Evaluated.nil p⟩
  | cons path documents ih =>
    obtain ⟨text, htext⟩ := Option.isSome_iff_exists.1 (hreadable path List.mem_cons_self)
    obtain ⟨hother, honce⟩ := List.nodup_cons.1 honce
    have hreadable' : ∀ other ∈ documents,
        ((p.evaluate tables mode path text).workspace.content? other).isSome := by
      intro other hmem
      rw [content?_evaluate_of_mem p path text hother other hmem]
      exact hreadable other (List.mem_cons_of_mem _ hmem)
    obtain ⟨after, hrun, hrest⟩ := ih (p.evaluate tables mode path text) hreadable'
      (by rwa [(sameLayout_evaluate p path text).place?_eq])
    refine ⟨after, ?_, Evaluated.cons htext hother hrest⟩
    rw [evaluateDocuments, htext]
    exact hrun

/-! ## Paths -/

theorem sameLayout_evaluateDocuments (p : Progress) (documents : List String) :
    p.workspace.SameLayout (evaluateDocuments tables mode p documents).progress.workspace := by
  induction documents generalizing p with
  | nil => exact SameLayout.refl _
  | cons path documents ih =>
    rw [evaluateDocuments]
    split
    · exact SameLayout.refl _
    · exact (sameLayout_evaluate p path _).trans (ih _)

theorem evaluateDocuments_append (p : Progress) (documents others : List String) :
    evaluateDocuments tables mode p (documents ++ others) =
      let run := evaluateDocuments tables mode p documents
      match run.failure with
      | some _ => run
      | none => evaluateDocuments tables mode run.progress others := by
  induction documents generalizing p with
  | nil => rfl
  | cons path documents ih =>
    rw [List.cons_append, evaluateDocuments, evaluateDocuments]
    split
    · rfl
    · exact ih _

/-- The documents that paths lead to, in the order of the paths. -/
def collectedDocuments (w : Workspace) (settings : Settings) (paths : List String) : List String :=
  paths.flatMap (fun path => (documentsUnder w settings path).toOption.getD [])

theorem documentsUnder_eq {w w' : Workspace} (h : w.SameLayout w') (path : String) :
    documentsUnder w' settings path = documentsUnder w settings path := by
  rw [documentsUnder, documentsUnder, h.isFile_eq, h.isDirectory_eq, h.filesBelow_eq]

theorem documentsUnder_eq_ok (settings : Settings) {w : Workspace} {path : String}
    (h : w.isFile path = true ∨ w.isDirectory path = true) :
    ∃ documents, documentsUnder w settings path = .ok documents := by
  rw [documentsUnder]
  split
  · exact ⟨_, rfl⟩
  · rename_i hfile
    rw [if_pos (h.resolve_left hfile)]
    exact ⟨_, rfl⟩

/-- What a run writes changes nothing about the documents that the remaining paths lead to. -/
theorem evaluatePaths_eq {w : Workspace} {p : Progress} (h : w.SameLayout p.workspace)
    {paths : List String}
    (hpaths : ∀ path ∈ paths, w.isFile path = true ∨ w.isDirectory path = true) :
    evaluatePaths tables settings mode p paths =
      evaluateDocuments tables mode p (collectedDocuments w settings paths) := by
  induction paths generalizing p with
  | nil => rfl
  | cons path paths ih =>
    obtain ⟨documents, hdocuments⟩ := documentsUnder_eq_ok settings
      (hpaths path List.mem_cons_self)
    have hcollected : collectedDocuments w settings (path :: paths) =
        documents ++ collectedDocuments w settings paths := by
      rw [collectedDocuments, List.flatMap_cons, hdocuments]
      rfl
    rw [evaluatePaths, documentsUnder_eq h, hdocuments, hcollected, evaluateDocuments_append]
    cases hfailure : (evaluateDocuments tables mode p documents).failure with
    | some failure => simp only [hfailure]
    | none =>
      simp only [hfailure]
      exact ih (h.trans (sameLayout_evaluateDocuments p documents))
        (fun other hmem => hpaths other (List.mem_cons_of_mem _ hmem))

/-! ## What is printed -/

/-- The line that tells that a document has been rewritten. -/
def updateLine (path : String) (e : Evaluation) : String :=
  "✓ Updated " ++ path ++ " (" ++ toString e.outcomes.length ++ " queries)\n"

/-- What is printed about an evaluated document beside that line: the changed lines if they are
asked for, or else the document itself unless it may be written. -/
def preview (mode : EvaluationMode) (path text : String) (e : Evaluation) : String :=
  if mode.diff then
    if e.text = text then "" else path ++ "\n" ++ LineDiff.shown text e.text
  else if mode.write then ""
  else e.text

theorem shownDocument_eq (mode : EvaluationMode) (path text : String) (e : Evaluation) :
    shownDocument mode path text e =
      preview mode path text e ++ if mode.write ∧ e.text ≠ text then updateLine path e else "" :=
  rfl

/-- The update line stands behind a document exactly if the run has changed it. -/
theorem Evaluated.shownAt_eq {before after : Progress} {documents : List String}
    (h : Evaluated tables mode before after documents) {path : String} (hmem : path ∈ documents)
    (hreadable : (before.workspace.content? path).isSome) :
    shownAt tables mode before.workspace path =
      preview mode path ((before.workspace.content? path).getD "")
          (evaluationOf tables before.workspace path) ++
        if after.workspace.content? path = before.workspace.content? path then ""
        else updateLine path (evaluationOf tables before.workspace path) := by
  obtain ⟨text, htext⟩ := Option.isSome_iff_exists.1 hreadable
  rw [shownAt, shownDocument_eq, htext, Option.getD_some]
  congr 1
  cases hwrite : mode.write with
  | false => rw [h.workspace_eq hwrite, htext, if_pos rfl, if_neg (by simp)]
  | true =>
    rw [h.content?_eq hwrite path hmem]
    by_cases hsame : (evaluationOf tables before.workspace path).text = text
    · rw [if_pos (congrArg some hsame), if_neg (fun hchanged => hchanged.2 hsame)]
    · rw [if_neg (fun he => hsame (Option.some.inj he)), if_pos ⟨rfl, hsame⟩]

/-! ## Commands -/

@[simp] theorem progress_failIfAnyFailed (r : Run) : r.failIfAnyFailed.progress = r.progress := by
  rw [Run.failIfAnyFailed]
  split
  · rfl
  · split <;> rfl

theorem failure_failIfAnyFailed (p : Progress) :
    p.succeed.failIfAnyFailed.failure =
      if p.failures = 0 then none else some (.directives p.failures) := by
  show (if p.failures = 0 then p.succeed else p.fail (.directives p.failures)).failure = _
  split <;> rfl

/-- A run over paths that lead somewhere evaluates the documents on the tables that it has
loaded. -/
theorem run_evaluate_eq {w : Workspace} {env : Environment} {directory data : Option String}
    {paths : List String}
    (hsettings : Settings.load w env (directory.getD (workingPath w)) = .ok settings)
    (htables : loadTables w settings (directory.getD (workingPath w)) data = .ok tables)
    (hpaths : ∀ path ∈ paths, w.isFile path = true ∨ w.isDirectory path = true) :
    run w env ⟨directory, .evaluate paths data mode⟩ =
      (evaluateDocuments tables mode { workspace := w }
        (collectedDocuments w settings paths)).failIfAnyFailed := by
  rw [← evaluatePaths_eq (p := { workspace := w }) (SameLayout.refl w) hpaths, run]
  simp only [hsettings, runCommand, htables]

/-- Evaluation of documents that are all texts and different files. Without the right to write no
file changes. With it every document becomes its evaluation on the records that were there before
the run, though directives fail, and no other file changes. The update line tells of the documents
that have changed. The run fails exactly if directives fail, and counts all of them. -/
theorem run_evaluate (mode : EvaluationMode) {w : Workspace} {env : Environment}
    {directory data : Option String} {paths : List String}
    (hsettings : Settings.load w env (directory.getD (workingPath w)) = .ok settings)
    (htables : loadTables w settings (directory.getD (workingPath w)) data = .ok tables)
    (hpaths : ∀ path ∈ paths, w.isFile path = true ∨ w.isDirectory path = true)
    (hreadable : ∀ path ∈ collectedDocuments w settings paths, (w.content? path).isSome)
    (honce : ((collectedDocuments w settings paths).map w.place?).Nodup) :
    let documents := collectedDocuments w settings paths
    let ended := run w env ⟨directory, .evaluate paths data mode⟩
    let w' := ended.progress.workspace
    let failing := (documents.map (fun path => (evaluationOf tables w path).failures)).sum
    (mode.write = false → w' = w) ∧
    (mode.write = true → ∀ path ∈ documents,
      w'.content? path = some (evaluationOf tables w path).text) ∧
    (∀ place, some place ∉ documents.map w.place? → w'.fileAt? place = w.fileAt? place) ∧
    ended.progress.output = String.join (documents.map (fun path =>
      preview mode path ((w.content? path).getD "") (evaluationOf tables w path) ++
        if w'.content? path = w.content? path then ""
        else updateLine path (evaluationOf tables w path))) ∧
    ended.failure.map Failure.message =
      if failing = 0 then none else some (toString failing ++ " query directive(s) failed") := by
  obtain ⟨after, hdocuments, hafter⟩ := evaluated_evaluateDocuments tables mode
    { workspace := w } (collectedDocuments w settings paths) hreadable honce
  have hrun : run w env ⟨directory, .evaluate paths data mode⟩ = after.succeed.failIfAnyFailed := by
    rw [run_evaluate_eq hsettings htables hpaths, hdocuments]
  have hprogress : (run w env ⟨directory, .evaluate paths data mode⟩).progress = after := by
    rw [hrun, progress_failIfAnyFailed]
    rfl
  have hfailures : after.failures = ((collectedDocuments w settings paths).map
      (fun path => (evaluationOf tables w path).failures)).sum := by
    rw [hafter.failures_eq, Nat.zero_add]
  dsimp only
  rw [hprogress]
  refine ⟨hafter.workspace_eq, hafter.content?_eq, hafter.fileAt?_eq, ?_, ?_⟩
  · rw [hafter.output_eq, String.empty_append]
    exact congrArg String.join
      (List.map_congr_left (fun path hmem => hafter.shownAt_eq hmem (hreadable path hmem)))
  · rw [hrun, failure_failIfAnyFailed, hfailures, apply_ite (Option.map Failure.message)]
    rfl

/-- Two documents and the records, in the working directory. The second document asks for a table
that is not known. -/
def twoDocuments : Workspace where
  workingDirectory := ["w"]
  files := [
    ⟨["w", "a.md"], some "<!-- #query page --><!-- /query -->"⟩,
    ⟨["w", "b.md"], some "<!-- #query absent --><!-- /query -->"⟩,
    ⟨["w", "data.json"], some "\x7b\"page\":[\x7b\"n\":\"x\"\x7d]\x7d"⟩]

/-- The tables in the records of `twoDocuments`. -/
def onePage : Tables := Tables.empty.addTable "page" [Record.ofList [("n", .string "x")]]

theorem loadTables_twoDocuments :
    loadTables twoDocuments {} ((none : Option String).getD (workingPath twoDocuments))
      (some "data.json") = .ok onePage := by
  have htext :
      twoDocuments.content? "data.json" = some "\x7b\"page\":[\x7b\"n\":\"x\"\x7d]\x7d" := by
    decide +kernel
  have htree : Json.ofText? "\x7b\"page\":[\x7b\"n\":\"x\"\x7d]\x7d" =
      some (.object [("page", .array [.object [("n", .string "x")]])]) := by
    cbv
  rw [loadTables, Option.some_or]
  simp only [tablesIn, htext, htree]
  rfl

theorem run_evaluate_twoDocuments :
    let ended := run twoDocuments [] ⟨none, .evaluate ["."] (some "data.json") ⟨true, false⟩⟩
    ended.progress.workspace.content? "./a.md" =
        some "<!-- #query page -->\n|n|\n|--|\n|x|\n<!-- /query -->" ∧
      ended.progress.workspace.content? "./b.md" =
        some "<!-- #query absent -->\n**Error:** Table not found: absent\n<!-- /query -->" ∧
      ended.progress.workspace.fileAt? ["w", "data.json"] =
        twoDocuments.fileAt? ["w", "data.json"] ∧
      ended.failure.map Failure.message = some "1 query directive(s) failed" := by
  have hsettings : Settings.load twoDocuments []
      ((none : Option String).getD (workingPath twoDocuments)) = .ok {} := by
    decide +kernel
  have hcollected : collectedDocuments twoDocuments {} ["."] = ["./a.md", "./b.md"] := by
    decide +kernel
  have hfailing : (["./a.md", "./b.md"].map
      (fun path => (evaluationOf onePage twoDocuments path).failures)).sum = 1 := by
    decide +kernel
  have hpaths : ∀ path ∈ ["."],
      twoDocuments.isFile path = true ∨ twoDocuments.isDirectory path = true := by
    decide +kernel
  intro ended
  obtain ⟨-, htexts, hothers, -, hfailure⟩ := run_evaluate ⟨true, false⟩ hsettings
    loadTables_twoDocuments hpaths (by decide +kernel) (by decide +kernel)
  -- from here on the run is a name, so that nothing evaluates it
  have hended : run twoDocuments [] ⟨none, .evaluate ["."] (some "data.json") ⟨true, false⟩⟩ =
      ended := rfl
  rw [hended] at htexts hothers hfailure
  clear_value ended
  rw [hcollected] at htexts hothers hfailure
  have hplace : some ["w", "data.json"] ∉ ["./a.md", "./b.md"].map twoDocuments.place? := by
    decide +kernel
  have hfirst : (evaluationOf onePage twoDocuments "./a.md").text =
      "<!-- #query page -->\n|n|\n|--|\n|x|\n<!-- /query -->" := by
    decide +kernel
  have hsecond : (evaluationOf onePage twoDocuments "./b.md").text =
      "<!-- #query absent -->\n**Error:** Table not found: absent\n<!-- /query -->" := by
    decide +kernel
  refine ⟨?_, ?_, hothers _ hplace, ?_⟩
  · rw [← hfirst]
    exact htexts rfl _ (by decide)
  · rw [← hsecond]
    exact htexts rfl _ (by decide)
  · rw [hfailure, hfailing]
    decide +kernel

end NoteQuery.CommandLine
