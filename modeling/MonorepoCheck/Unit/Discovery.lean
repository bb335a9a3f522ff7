import MonorepoCheck.Failure
import MonorepoCheck.Glob.Expand
import MonorepoCheck.Host
import MonorepoCheck.Settings.Basic
import MonorepoCheck.Unit.References

/-!
Finding the build units of a workspace: the members that its manifest declares, else the children of
the usual grouping directories, and the root itself. Each unit is found once.
-/
namespace MonorepoCheck

structure Workspace where
  /-- absolute and free of `.` and `..` -/
  root : Path
  deriving DecidableEq, Repr, Inhabited

namespace Workspace

/-- The workspace in a directory that exists. -/
def inDirectory (host : Host) (root : Path) : Except Failure Workspace :=
  if host.isDirectoryAt root then
    match host.realPath root with
    | .ok root => .ok ⟨root⟩
    | .error _ => .error (.rootNotFound root)
  else .error (.rootNotFound root)

/-- The manifest in the root. -/
def manifestName : String := "package.json"

/-- The patterns of the members that a manifest declares. -/
def memberPatterns (manifest : Json) : List String :=
  let declared := match manifest.get? "workspaces" with
    | some (.object members) => (Json.object members).get? "packages"
    | declared => declared
  ((declared.bind Json.array?).getD []).filterMap Json.text?

/-- The directories that the pattern of a member means. -/
def expand (workspace : Workspace) (host : Host) (pattern : String) : List Path :=
  let chars := pattern.toList
  let inner := Text.dropEndWhile (· == '/') (Text.dropLeading ['.', '/'] chars.length chars)
  (Glob.directories host.files (workspace.root.join ⟨String.ofList inner⟩)).map Path.normalize

/-- The manifest, as far as it can be read. -/
def manifest? (workspace : Workspace) (host : Host) : Option Json := do
  let text ← (host.readText (workspace.root.join ⟨manifestName⟩)).toOption
  let manifest ← Json.parseText? text
  if manifest.readable then pure manifest else none

/-- The members that the manifest declares. A pattern after `!` takes out what it matches. -/
def declaredMembers (workspace : Workspace) (host : Host) : List Path :=
  let patterns := ((workspace.manifest? host).map memberPatterns).getD []
  let excluded := patterns.flatMap fun pattern =>
    match pattern.toList with
    | '!' :: rest => workspace.expand host (String.ofList rest)
    | _ => []
  let included := patterns.flatMap fun pattern =>
    match pattern.toList with
    | '!' :: _ => []
    | _ => workspace.expand host pattern
  included.filter fun path => !excluded.contains path

/-- The directories right inside a grouping directory. -/
def childDirectories (host : Host) (group : Path) : List Path :=
  if host.isDirectoryAt group then
    match host.files.locate host.here group with
    | .ok place =>
      ((host.files.children place).map fun child => group.join ⟨child.1⟩).filter host.isDirectoryAt
    | .error _ => []
  else []

def groupedMembers (workspace : Workspace) (host : Host) (groups : List String) : List Path :=
  groups.flatMap fun group => childDirectories host (workspace.root.join ⟨group⟩)

/-- The directories that may be units. The root comes last. -/
def candidates (workspace : Workspace) (host : Host) (settings : Settings) : List Path :=
  let declared := workspace.declaredMembers host
  let members :=
    if declared.isEmpty then workspace.groupedMembers host settings.fallbackDirectories else declared
  (members ++ [workspace.root]).map Path.normalize

/-- A unit with the references of its build configuration. -/
def loadUnit (workspace : Workspace) (host : Host) (settings : Settings) (path : Path) :
    BuildUnit :=
  let unit := BuildUnit.inDirectory workspace.root path settings.configurationFile
  match host.readText unit.configuration with
  | .ok text => { unit with references := References.read text.toList unit.path }
  | .error _ => unit

/-- The units of the workspace, in the order in which they are found. -/
def units (workspace : Workspace) (host : Host) (settings : Settings) : List BuildUnit :=
  let marked := (workspace.candidates host settings).filter fun path =>
    host.isFileAt (path.join ⟨settings.configurationFile⟩)
  marked.eraseDups.map (workspace.loadUnit host settings)

end Workspace
end MonorepoCheck
