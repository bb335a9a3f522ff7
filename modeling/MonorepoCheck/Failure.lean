import MonorepoCheck.Files.Tree

/-!
Why a request cannot be met at all. Whatever else goes wrong makes a report smaller and is no
failure.
-/
namespace MonorepoCheck

inductive Failure where
  | rootNotFound (root : Path)
  | noUnitsFound (root : Path) (configurationFile : String)
  /-- the run was stopped before it came to any unit -/
  | cancelled
  | settingsUnread (path : Path) (cause : FileError)
  /-- the settings are no document, or hold a value that is out of place -/
  | settingsMalformed (path : Path)
  | reportUnwritten (path : Path) (cause : FileError)
  | cacheNotMade (directory : Path) (cause : FileError)
  | cacheUnwritten (path : Path) (cause : FileError)
  | cacheNotReplaced (path : Path) (cause : FileError)
  | files (cause : FileError)
  deriving DecidableEq, Repr, Inhabited

namespace Failure

/-- What could not be done. -/
def message : Failure → String
  | rootNotFound root =>
    "workspace root " ++ root.text ++ " does not exist or is not a directory"
  | noUnitsFound root file =>
    "no build units found under " ++ root.text ++ " (looked for " ++ file ++ ")"
  | cancelled => "run cancelled before any unit was processed"
  | settingsUnread path _ => "reading config file " ++ path.text
  | settingsMalformed path => "parsing config file " ++ path.text
  | reportUnwritten path _ => "writing report to " ++ path.text
  | cacheNotMade directory _ => "creating cache directory " ++ directory.text
  | cacheUnwritten path _ => "writing cache entry " ++ path.text
  | cacheNotReplaced path _ => "replacing cache entry " ++ path.text
  | files cause => cause.message

/-- What stood in the way, where that is not said yet. -/
def cause? : Failure → Option FileError
  | settingsUnread _ cause | reportUnwritten _ cause | cacheNotMade _ cause
  | cacheUnwritten _ cause | cacheNotReplaced _ cause => some cause
  | _ => none

/-- The message with its cause. -/
def fullMessage (failure : Failure) : String :=
  match failure.cause? with
  | some cause => failure.message ++ ": " ++ cause.message
  | none => failure.message

/-- The exit status of a program that ends with this failure. Status 1 is left to runs after which
diagnostics remain. -/
def exitStatus : Failure → Nat
  | cancelled => 130
  | _ => 2

end Failure
end MonorepoCheck
