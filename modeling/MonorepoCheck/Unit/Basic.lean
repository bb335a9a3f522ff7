import MonorepoCheck.Json.Fields
import MonorepoCheck.Path.Relative

/-!
Build units: directories of a workspace that are checked on their own, each marked by a build
configuration file.
-/
namespace MonorepoCheck

structure BuildUnit where
  /-- two units are one when their paths are -/
  path : Path
  /-- the path as seen from the root of the workspace -/
  name : String
  /-- the build configuration file -/
  configuration : Path
  /-- the directories of the units that this one refers to, in the order of the file -/
  references : List Path
  deriving DecidableEq, Repr, Inhabited

namespace BuildUnit

/-- A unit as it is found in a workspace. One that is read from JSON need not be. -/
structure Placed (unit : BuildUnit) : Prop where
  path : unit.path.Resolved
  references : ∀ target ∈ unit.references, target.Resolved

/-- The unit in a directory, without references. -/
def inDirectory (root path : Path) (configurationFile : String) : BuildUnit :=
  ⟨path, Path.relativeTo root path, path.join ⟨configurationFile⟩, []⟩

def toJson (unit : BuildUnit) : Json :=
  .object
    [("path", .string unit.path.text), ("relative_path", .string unit.name),
     ("config_path", .string unit.configuration.text),
     ("references", .ofTexts (unit.references.map Path.text))]

def ofJson? (json : Json) : Option BuildUnit := do
  match ← Json.fields? ["path", "relative_path", "config_path", "references"] json with
  | [path, name, configuration, references] =>
    pure {
      path := ⟨← Json.required Json.text? path⟩
      name := ← Json.required Json.text? name
      configuration := ⟨← Json.required Json.text? configuration⟩
      references := (← Json.orElse [] Json.texts? references).map Path.mk }
  | _ => none

end BuildUnit
end MonorepoCheck
