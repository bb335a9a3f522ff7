import MonorepoCheck.Json.Comments
import MonorepoCheck.Json.Reader
import MonorepoCheck.Text.Letter
import MonorepoCheck.Unit.Basic

/-!
The references of a build configuration: the directories of the units that a unit builds on. A
configuration that cannot be read has none.
-/
namespace MonorepoCheck.References

/-- The directory that a reference means. One that names a configuration file means the directory
of that file. -/
def resolve (directory : Path) (reference : String) : Path :=
  let target := (directory.join ⟨reference⟩).normalize
  match target.extension? with
  | some extension =>
    if Text.sameUpToCase extension "json" then (target.parent?).getD target else target
  | none => target

def ofJson? (json : Json) : Option (List String) := do
  match ← Json.fields? ["references"] json with
  | [references] =>
    Json.orElse [] (Json.listOf? fun reference => do
      match ← Json.fields? ["path"] reference with
      | [path] => Json.required Json.text? path
      | _ => none) references
  | _ => none

/-- The references that a configuration in `directory` declares, in order. -/
def read (configuration : List Char) (directory : Path) : List Path :=
  match (Json.parse? (Json.plain configuration)).bind ofJson? with
  | some references => references.map (resolve directory)
  | none => []

end MonorepoCheck.References
