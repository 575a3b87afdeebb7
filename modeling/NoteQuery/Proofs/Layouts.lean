import NoteQuery.Workspace.Basic
import Mathlib.Data.List.Basic

/-!
# What writing leaves alone

A write changes what one file says. It creates and removes nothing, so every path leads where it led
before (`SameLayout`), and the files at other places stay as they are (`fileAt?_write`).
-/

namespace NoteQuery.Workspace

/-! ## Layouts -/

/-- The second workspace has the directories and the files of the first one; only what the files say
may differ. -/
structure SameLayout (w w' : Workspace) : Prop where
  workingDirectory_eq : w'.workingDirectory = w.workingDirectory
  directories_eq : w'.directories = w.directories
  places_eq : w'.files.map WorkspaceFile.place = w.files.map WorkspaceFile.place

namespace SameLayout

variable {w w' w'' : Workspace}

protected theorem refl (w : Workspace) : SameLayout w w := ⟨rfl, rfl, rfl⟩

protected theorem trans (h : SameLayout w w') (h' : SameLayout w' w'') : SameLayout w w'' where
  workingDirectory_eq := h'.workingDirectory_eq.trans h.workingDirectory_eq
  directories_eq := h'.directories_eq.trans h.directories_eq
  places_eq := h'.places_eq.trans h.places_eq

/-- What is asked of some file by its place alone is asked of the places. -/
theorem any_files_eq (h : SameLayout w w') (p : Place → Bool) :
    w'.files.any (fun file => p file.place) = w.files.any (fun file => p file.place) := by
  have hany : ∀ files : List WorkspaceFile,
      files.any (fun file => p file.place) = (files.map WorkspaceFile.place).any p :=
    fun files => (List.any_map).symm
  rw [hany, hany, h.places_eq]

theorem hasDirectoryAt_eq (h : SameLayout w w') : w'.hasDirectoryAt = w.hasDirectoryAt := by
  funext place
  rw [hasDirectoryAt, hasDirectoryAt, h.workingDirectory_eq, h.directories_eq,
    h.any_files_eq (fun other => place.isPrefixOf other.dropLast)]

theorem place?_eq (h : SameLayout w w') : w'.place? = w.place? := by
  have hfollow : w'.follow = w.follow := by
    funext place part
    rw [follow, follow, h.hasDirectoryAt_eq]
  funext path
  rw [place?, place?, hfollow, h.workingDirectory_eq]

theorem isSome_fileAt?_eq (h : SameLayout w w') (place : Place) :
    (w'.fileAt? place).isSome = (w.fileAt? place).isSome := by
  rw [fileAt?, fileAt?, List.isSome_find?, List.isSome_find?, h.any_files_eq (· == place)]

theorem isFile_eq (h : SameLayout w w') (path : String) : w'.isFile path = w.isFile path := by
  rw [isFile, isFile, file?, file?, h.place?_eq]
  cases w.place? path with
  | none => rfl
  | some place => exact h.isSome_fileAt?_eq place

theorem isDirectory_eq (h : SameLayout w w') (path : String) :
    w'.isDirectory path = w.isDirectory path := by
  rw [isDirectory, isDirectory, h.place?_eq, h.hasDirectoryAt_eq]

theorem filesBelow_eq (h : SameLayout w w') (directory : String) :
    w'.filesBelow directory = w.filesBelow directory := by
  rw [filesBelow, filesBelow, h.place?_eq]
  cases w.place? directory with
  | none => rfl
  | some place =>
    have hbelow : ∀ files : List WorkspaceFile,
        (files.filter (fun file => place.isPrefixOf file.place)).map
            (fun file => (file.place.drop place.length).foldl Path.join directory) =
          ((files.map WorkspaceFile.place).filter place.isPrefixOf).map
            (fun other => (other.drop place.length).foldl Path.join directory) := by
      intro files
      rw [List.filter_map, List.map_map]
      rfl
    dsimp only
    rw [hbelow, hbelow, h.places_eq]

/-- A path finds the same text in two workspaces if the file at its place is the same. -/
theorem content?_eq (h : SameLayout w w') {path : String}
    (hfile : ∀ place, w.place? path = some place → w'.fileAt? place = w.fileAt? place) :
    w'.content? path = w.content? path := by
  rw [content?, content?, file?, file?, h.place?_eq]
  cases hplace : w.place? path with
  | none => rfl
  | some place => rw [Option.bind_some, Option.bind_some, hfile place hplace]

end SameLayout

/-! ## Writes -/

variable (w : Workspace)

theorem isFile_of_content? {path text : String} (h : w.content? path = some text) :
    w.isFile path = true :=
  Option.isSome_of_mem (Option.bind_eq_some_iff.1 h).choose_spec.1

theorem sameLayout_writeAt (place : Place) (text : String) :
    SameLayout w (w.writeAt place text) where
  workingDirectory_eq := rfl
  directories_eq := rfl
  places_eq := by
    rw [writeAt, List.map_map]
    refine List.map_congr_left (fun file _ => ?_)
    dsimp only [Function.comp]
    split <;> rfl

theorem sameLayout_write (path text : String) : SameLayout w (w.write path text) := by
  rw [write]
  split
  · exact SameLayout.refl w
  · exact sameLayout_writeAt w _ text

/-- Only the file at the place of a write says something else. -/
theorem fileAt?_writeAt (place other : Place) (text : String) :
    (w.writeAt place text).fileAt? other =
      (w.fileAt? other).map (fun file =>
        if file.place = place then { file with content := some text } else file) := by
  have hplace : (fun file : WorkspaceFile => file.place == other) ∘
      (fun file => if file.place = place then { file with content := some text } else file) =
        fun file => file.place == other := by
    funext file
    dsimp only [Function.comp]
    split <;> rfl
  rw [fileAt?, writeAt, List.find?_map, hplace]
  rfl

theorem place_of_fileAt? {place : Place} {file : WorkspaceFile} (h : w.fileAt? place = some file) :
    file.place = place := by
  have hfound := List.find?_some h
  exact eq_of_beq hfound

/-- A write leaves the files at other places alone. -/
theorem fileAt?_write {path : String} (text : String) {place : Place}
    (h : some place ≠ w.place? path) : (w.write path text).fileAt? place = w.fileAt? place := by
  rw [write]
  split
  · rfl
  · rename_i target htarget
    rw [fileAt?_writeAt]
    cases hfile : w.fileAt? place with
    | none => rfl
    | some file =>
      have hfound : file.place ≠ target := by
        rw [w.place_of_fileAt? hfile]
        exact fun he => h (by rw [he, htarget])
      rw [Option.map_some, if_neg hfound]

/-- Behind a write to a file it has the text. -/
theorem content?_write {path : String} (hfile : w.isFile path = true) (text : String) :
    (w.write path text).content? path = some text := by
  obtain ⟨file, hfile⟩ := Option.isSome_iff_exists.1 hfile
  obtain ⟨place, hplace, hfile⟩ := Option.bind_eq_some_iff.1 hfile
  have hwrite : w.write path text = w.writeAt place text := by rw [write, hplace]
  rw [content?, file?, (w.sameLayout_write path text).place?_eq, hwrite, hplace, Option.bind_some,
    fileAt?_writeAt, hfile, Option.map_some, Option.bind_some, if_pos (w.place_of_fileAt? hfile)]

end NoteQuery.Workspace
