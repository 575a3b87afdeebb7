import NoteQuery.Settings.Environment
import NoteQuery.Toml.Basic
import NoteQuery.Workspace.Path

/-! # Settings

Where the records are, which files are documents, and which paths are left alone.
-/

namespace NoteQuery

open NoteQuery.Text NoteQuery.Unicode

/-- Settings of a run. -/
structure Settings where
  /-- Path of the file with the records. -/
  data : Option String := none
  /-- Extensions of documents. -/
  extensions : List String := ["md"]
  /-- Patterns of paths that are left alone. -/
  ignored : List String := [".git", "node_modules"]
deriving DecidableEq, Repr

/-- Name of the file with the settings. -/
def settingsFileName : String := "docquery.toml"

/-- Name of the file that adds to the environment. -/
def environmentFileName : String := ".env"

/-- Name of the variable that overrides the path of the records. -/
def dataVariable : String := "DOCQUERY_DATA"

/-- Name of the variable that overrides the extensions. -/
def extensionsVariable : String := "DOCQUERY_EXTENSIONS"

namespace Settings

/-! ## Reading settings -/

/-- A text, if the node is one. -/
def text? : Toml.Node → Option String
  | .string s => some s
  | _ => none

/-- The texts of an array, if it has nothing else. -/
def texts? : Toml.Node → Option (List String)
  | .array items => items.mapM text?
  | _ => none

/-- A member of a table as `read` reads it; a missing one counts as `default`. -/
def memberOr {α : Type} (default : α) (read : Toml.Node → Option α) (key : String)
    (table : Toml.Table) : Option α :=
  match Entries.find? key table with
  | none => some default
  | some node => read node

/-- The settings in a table; missing ones have their defaults. -/
def ofTable? (table : Toml.Table) : Option Settings := do
  let standard : Settings := {}
  let data ← memberOr standard.data (fun node => (text? node).map some) "data" table
  let extensions ← memberOr standard.extensions texts? "extensions" table
  let ignored ← memberOr standard.ignored texts? "ignore" table
  return { data, extensions, ignored }

/-- The extensions in a list with commas, without white space and leading dots. -/
def extensionsOf (list : String) : List String :=
  let cleaned (part : List Char) : List Char := (trim part).dropWhile (· == '.')
  (((splitBy (· == ',') list.toList).map cleaned).filter (fun part => !part.isEmpty)).map
    String.ofList

/-- The settings with what an environment overrides: neither an empty path nor a list without
extensions counts. -/
def overriddenBy (s : Settings) (env : Environment) : Settings :=
  let data :=
    match env.find? dataVariable with
    | none => s.data
    | some path => if path.isEmpty then s.data else some path
  let extensions :=
    match env.find? extensionsVariable with
    | none => s.extensions
    | some list => if (extensionsOf list).isEmpty then s.extensions else extensionsOf list
  { s with data, extensions }

/-! ## Using settings -/

/-- Path of the records; a relative one starts at the directory of the settings. -/
def dataPath (s : Settings) (directory : String) : Option String :=
  s.data.map (Path.join directory)

/-- Whether a path fits a pattern: it ends as the pattern does behind an asterisk in front of a
dot, or the pattern occurs in it. -/
def fitsPattern (path pattern : String) : Bool :=
  match pattern.toList with
  | '*' :: '.' :: rest => ('.' :: rest).isSuffixOf path.toList
  | cs => occursIn cs path.toList

/-- Whether a path is left alone. -/
def ignores (s : Settings) (path : String) : Bool := s.ignored.any (fitsPattern path)

/-- Whether a path is one of a document. -/
def isDocument (s : Settings) (path : String) : Bool :=
  !s.ignores path && (Path.extension? path).any s.extensions.contains

end Settings

end NoteQuery
