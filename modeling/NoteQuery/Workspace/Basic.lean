import NoteQuery.Workspace.Path

/-! # Workspaces

The files that a run can see. A file stands at a place, the names that lead to it from the root; the
files are in ascending order of their places, so those below a directory are next to each other and
in the order of a walk that goes by name and enters each directory when it meets it.
-/

namespace NoteQuery

/-- Names that lead from the root to a file or a directory. -/
abbrev Place := List String

/-- A file. -/
structure WorkspaceFile where
  place : Place
  /-- What the file says, unless it is no text. -/
  content : Option String
deriving DecidableEq, Repr, Inhabited

/-- Files and directories. -/
structure Workspace where
  /-- Where relative paths start. -/
  workingDirectory : Place
  /-- Known directories, besides those on the way to a file. -/
  directories : List Place := []
  /-- Files in ascending order of their places. -/
  files : List WorkspaceFile
deriving Inhabited

namespace Workspace

/-- Puts a file among others; it takes the place of one that stands there. -/
def insertFile (file : WorkspaceFile) : List WorkspaceFile → List WorkspaceFile
  | [] => [file]
  | other :: rest =>
    if file.place < other.place then file :: other :: rest
    else if other.place = file.place then file :: rest
    else other :: insertFile file rest

/-- The workspace with the given files. -/
def ofFiles (workingDirectory : Place) (directories : List Place) (files : List WorkspaceFile) :
    Workspace :=
  { workingDirectory, directories, files := files.foldl (fun done file => insertFile file done) [] }

/-! ## Looking up -/

/-- The file at a place. -/
def fileAt? (w : Workspace) (place : Place) : Option WorkspaceFile :=
  w.files.find? (fun file => file.place == place)

/-- Whether there is a directory at a place: one that is known, or one on the way to a file or to
the working directory. -/
def hasDirectoryAt (w : Workspace) (place : Place) : Bool :=
  (w.workingDirectory :: w.directories).any (fun directory => place.isPrefixOf directory) ||
    w.files.any (fun file => place.isPrefixOf file.place.dropLast)

/-- Follows one part of a path from a directory. -/
def follow (w : Workspace) (place : Place) (part : String) : Option Place :=
  if w.hasDirectoryAt place then
    if part = "" ∨ part = "." then some place
    else if part = ".." then some place.dropLast
    else some (place ++ [part])
  else none

/-- The place that a path leads to. -/
def place? (w : Workspace) (path : String) : Option Place :=
  if path.isEmpty then none
  else
    (Path.parts path).foldlM w.follow (if Path.isAbsolute path then [] else w.workingDirectory)

/-- The file that a path leads to. -/
def file? (w : Workspace) (path : String) : Option WorkspaceFile := (w.place? path).bind w.fileAt?

/-- What the file says that a path leads to. -/
def content? (w : Workspace) (path : String) : Option String :=
  (w.file? path).bind WorkspaceFile.content

/-- Whether a path leads to a file. -/
def isFile (w : Workspace) (path : String) : Bool := (w.file? path).isSome

/-- Whether a path leads to a directory. -/
def isDirectory (w : Workspace) (path : String) : Bool := (w.place? path).any w.hasDirectoryAt

/-- Paths of the files below a directory, in the order of a walk. -/
def filesBelow (w : Workspace) (directory : String) : List String :=
  match w.place? directory with
  | none => []
  | some place =>
    (w.files.filter (fun file => place.isPrefixOf file.place)).map (fun file =>
      (file.place.drop place.length).foldl Path.join directory)

/-! ## Writing -/

/-- The workspace with another text in the file at a place. -/
def writeAt (w : Workspace) (place : Place) (text : String) : Workspace :=
  { w with files := w.files.map (fun file =>
      if file.place = place then { file with content := some text } else file) }

/-- The workspace with another text in the file that a path leads to. -/
def write (w : Workspace) (path text : String) : Workspace :=
  match w.place? path with
  | none => w
  | some place => w.writeAt place text

end Workspace

end NoteQuery
