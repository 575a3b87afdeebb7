import NoteQuery.Settings.Basic
import NoteQuery.Toml.Reader
import NoteQuery.Workspace.Basic

/-! # Loading settings

The settings of a directory: those in its settings file, overridden by the environment and by what
the directory's environment file adds to it.
-/

namespace NoteQuery

/-- Why there are no settings. -/
inductive SettingsError where
  /-- The settings file cannot be read. -/
  | unreadable (path : String)
  /-- The settings file is not in its format, or a setting has the wrong type. -/
  | malformed (path : String)
  /-- The settings file leaves no extensions. -/
  | noExtensions (path : String)
deriving DecidableEq, Repr

/-- Wording of a settings error. -/
def SettingsError.message : SettingsError → String
  | unreadable path => "IO error: " ++ path ++ " cannot be read"
  | malformed path => "TOML error: " ++ path ++ " is malformed"
  | noExtensions path => "Configuration error: " ++ path ++ ": 'extensions' must not be empty"

namespace Settings

/-- The settings in a text; `path` is that of the text. -/
def ofText (path text : String) : Except SettingsError Settings :=
  match (Toml.ofText? text).bind ofTable? with
  | none => .error (.malformed path)
  | some s => if s.extensions.isEmpty then .error (.noExtensions path) else .ok s

/-- The settings in a directory's file, or the defaults without such a file. -/
def inDirectory (w : Workspace) (directory : String) : Except SettingsError Settings :=
  let path := Path.join directory settingsFileName
  match w.content? path with
  | some text => ofText path text
  | none => if w.isFile path || w.isDirectory path then .error (.unreadable path) else .ok {}

/-- The environment with what a directory's environment file adds. -/
def environmentIn (w : Workspace) (env : Environment) (directory : String) : Environment :=
  match w.content? (Path.join directory environmentFileName) with
  | some text => env.addFile text
  | none => env

/-- The settings of a directory. -/
def load (w : Workspace) (env : Environment) (directory : String) :
    Except SettingsError Settings := do
  let s ← inDirectory w directory
  return s.overriddenBy (environmentIn w env directory)

end Settings

end NoteQuery
