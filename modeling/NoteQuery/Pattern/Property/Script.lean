import NoteQuery.Pattern.Property.Formula
import NoteQuery.Unicode.Ages

/-! # Scripts and ages

Scripts, the sets of characters that a script uses, and the characters of a version of the standard
by the names that patterns use.
-/

namespace NoteQuery.SetFormula

open NoteQuery.Text NoteQuery.Unicode

/-- The characters of a script by a name of it. -/
def ofScript? (name : String) : Option SetFormula :=
  (named? scripts name).map ranges

/-- The characters that a script uses: its own, except for those of `scriptExtensions`, which counts
for them instead. -/
def ofScriptExtension? (name : String) : Option SetFormula := do
  let (names, own) ← scripts.find? (fun entry => isAmong name entry.1)
  let short := String.ofList (names.toList.take 4)
  let shared := (scriptExtensions.filter (fun entry => isAmong short entry.1)).map (fun entry =>
    ranges entry.2)
  let listed := union (scriptExtensions.map (fun entry => ranges entry.2))
  return union (without (ranges own) listed :: shared)

/-- Versions up to the one with a name, which is its number or a `v` and its digits. -/
private def versionsUpTo (name : String) : List (String × String) → Option (List String)
  | [] => none
  | (version, added) :: later =>
    let digits := version.toList.filter Char.isDigit
    if name == version || name.toList == 'v' :: digits then some [added]
    else (versionsUpTo name later).map (added :: ·)

/-- The code points that a version of the standard assigns, by the name of the version. -/
def ofAge? (name : String) : Option SetFormula :=
  (versionsUpTo name ages).map (fun added => union (added.map ranges))

end NoteQuery.SetFormula
