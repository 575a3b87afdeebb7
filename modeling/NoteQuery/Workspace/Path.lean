import NoteQuery.Text.Basic

/-! # Paths

A path is a text with parts between slashes. These functions look at the text alone; which file a
path leads to is the workspace's to say.
-/

namespace NoteQuery.Path

open NoteQuery.Text

/-- The parts of a path between its slashes, empty ones included. -/
def parts (path : String) : List String :=
  (splitBy (· == '/') path.toList).map String.ofList

/-- Whether a path starts at the root. -/
def isAbsolute (path : String) : Bool := path.toList.head? == some '/'

/-- A path that is taken from a directory on; an absolute one stays as it is. -/
def join (directory path : String) : String :=
  if isAbsolute path || directory.isEmpty then path
  else if directory.toList.getLast? == some '/' then directory ++ path
  else directory ++ "/" ++ path

/-- The last part of a path, if it is a name. -/
def fileName? (path : String) : Option String :=
  match ((parts path).filter (fun part => part != "" && part != ".")).getLast? with
  | none => none
  | some part => if part == ".." then none else some part

/-- What follows the last dot of the file name, unless the name has no other dot than a leading
one. -/
def extension? (path : String) : Option String := do
  let name := (← fileName? path).toList
  let behind := (name.reverse.takeWhile (· != '.')).reverse
  if name.length ≤ behind.length + 1 then none else some (String.ofList behind)

end NoteQuery.Path
