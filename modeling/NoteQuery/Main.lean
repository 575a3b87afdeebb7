import NoteQuery.CommandLine.Run

/-! # The program

Gathers what a run can see, runs it, prints, and writes the files that it changes. -/

namespace NoteQuery.Main

open NoteQuery.CommandLine

/-- What is said about an ill-formed command line. -/
def usage : String :=
  "Usage: docquery [--config <DIR>] query <QUERY> [-d <FILE>]\n" ++
  "       docquery [--config <DIR>] eval <PATHS>... [-d <FILE>] [-w] [--diff]\n" ++
  "       docquery [--config <DIR>] scrub <PATH>\n"

/-- Names that lead to a path, `.` and `..` resolved. -/
def placeOf (path : String) : Place :=
  (Path.parts path).foldl (fun place part =>
    if part == "" || part == "." then place
    else if part == ".." then place.dropLast
    else place ++ [part]) []

/-- A file with its text, if it has one. -/
def readFile (path : String) : IO WorkspaceFile := do
  let content ← try some <$> IO.FS.readFile path catch _ => pure none
  return { place := placeOf path, content }

/-- Adds what a path leads to, and everything below it. -/
partial def addPath (w : Workspace) (path : String) : IO Workspace := do
  let root ← IO.currentDir
  let entry := root / path
  if ← entry.isDir then
    let names := (← entry.readDir).map (fun e => e.fileName)
    let w := { w with directories := placeOf path :: w.directories }
    names.foldlM (fun w name => addPath w (Path.join path name)) w
  else if ← entry.pathExists then
    return { w with files := Workspace.insertFile (← readFile path) w.files }
  else return w

/-- Adds one file, if it is there. -/
def addFile (w : Workspace) (path : String) : IO Workspace := do
  let root ← IO.currentDir
  if (← (root / path).pathExists) && !(← (root / path).isDir) then addPath w path else return w

/-- Names that an environment file may mention. -/
def mentioned (text : String) : List String :=
  let runs (inName : Char → Bool) : List String :=
    ((Text.splitBy (fun c => !inName c) text.toList).filter (fun cs => !cs.isEmpty)).map
      String.ofList
  runs Unicode.isAlphanumeric ++ runs (fun c => c.isAlphanum || c == '_' || c == '.')

/-- The variables with the given names that are set. -/
def environmentOf (names : List String) : IO Environment :=
  names.foldlM (fun (env : Environment) name => do
    match ← IO.getEnv name with
    | some value => return env.put name value
    | none => return env) []

/-- Paths whose files a command reads, besides its records. -/
def pathsOf : Command → List String
  | .query _ _ => []
  | .evaluate paths _ _ => paths
  | .scrub path => [path]

/-- Path of the records that a command names. -/
def dataOf : Command → Option String
  | .query _ data => data
  | .evaluate _ data _ => data
  | .scrub _ => none

/-- Gathers what a request can see and runs it. -/
def perform (request : Request) : IO Run := do
  let working := (← IO.currentDir).toString
  let absolute (path : String) : String := Path.join working path
  let directory := absolute (request.directory.getD working)
  let w : Workspace := { workingDirectory := placeOf working, files := [] }
  let w ← addFile w (Path.join directory settingsFileName)
  let w ← addFile w (Path.join directory environmentFileName)
  let text := (w.content? (Path.join directory environmentFileName)).getD ""
  let env ← environmentOf (dataVariable :: extensionsVariable :: mentioned text)
  let configured :=
    match Settings.load w env directory with
    | .ok settings => settings.dataPath directory
    | .error _ => none
  let w ← ((dataOf request.command).or configured).toList.foldlM
    (fun w path => addFile w (absolute path)) w
  let w ← (pathsOf request.command).foldlM (fun w path => addPath w (absolute path)) w
  let done := CommandLine.run w env request
  for (before, after) in w.files.zip done.progress.workspace.files do
    if before ≠ after then
      IO.FS.writeFile ("/" ++ Text.joinWith "/" after.place) (after.content.getD "")
  return done

end NoteQuery.Main

/-- Runs a command line. -/
def main (arguments : List String) : IO UInt32 := do
  match NoteQuery.CommandLine.request? arguments with
  | none =>
    IO.eprint NoteQuery.Main.usage
    return 2
  | some request =>
    let done ← NoteQuery.Main.perform request
    IO.print done.progress.output
    IO.eprint done.progress.report
    match done.failure with
    | none => return 0
    | some failure =>
      IO.eprintln ("Error: " ++ failure.message)
      return 1
