import MonorepoCheck.Failure
import MonorepoCheck.Host
import MonorepoCheck.Settings.Stored

/-!
Loading settings from a file and saving them. Settings that name no key for their language model
take it from the environment.
-/
namespace MonorepoCheck.Settings

/-- The file of settings in the root of a workspace. -/
def fileName : String := "diagsweep.toml"

/-- Takes a missing key from the environment. -/
def withEnvironment (settings : Settings) (host : Host) : Settings :=
  match settings.advice.apiKey with
  | some _ => settings
  | none =>
    let key := settings.advice.provider.keyVariable?.bind host.valueOf?
    { settings with advice := { settings.advice with apiKey := key } }

/-- The settings in a file. -/
def load (host : Host) (path : Path) : Except Failure Settings :=
  match host.readText path with
  | .error cause => .error (.settingsUnread path cause)
  | .ok text =>
    match read? text with
    | some settings => .ok (settings.withEnvironment host)
    | none => .error (.settingsMalformed path)

/-- The settings of a workspace: those in its file, or the defaults where it has none. -/
def ofWorkspace (host : Host) (root : Path) : Except Failure Settings :=
  let path := root.join ⟨fileName⟩
  if host.existsAt path then load host path else .ok (default.withEnvironment host)

/-- Writes the settings to a file, and makes the directories it is in. -/
def save (settings : Settings) (host : Host) (path : Path) : Except FileError Host := do
  let host ← match path.parent? with
    | some parent => host.makeDirectories parent
    | none => pure host
  host.writeText path settings.document

end MonorepoCheck.Settings
