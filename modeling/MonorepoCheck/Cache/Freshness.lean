import MonorepoCheck.Cache.Store
import MonorepoCheck.Settings.Basic
import MonorepoCheck.Unit.Basic

/-!
Which entries may stand in for a scan: those made under the same options, while no source of the
unit is newer than the entry.
-/
namespace MonorepoCheck

namespace FileTree

/-- The place below `place` by the names that lead there. -/
def below? : Location → Location → Option Location
  | [], other => some other
  | _ :: _, [] => none
  | name :: place, other :: rest => if name = other then below? place rest else none

/-- The files at a place or below it, with the names of the directories in between. -/
def filesUnder (tree : FileTree) (place : Location) : List (List String × Path × Instant) :=
  tree.entries.filterMap fun (other, entry) =>
    match entry, below? place other with
    | .file _ modified, some rest => some (rest.dropLast, pathOf other, modified)
    | _, _ => none

end FileTree

/-- The cache of a run. -/
structure Cache where
  store : CacheStore
  ignoredDirectories : List String
  sourceExtensions : List String
  deriving DecidableEq, Repr, Inhabited

namespace Cache

def ofSettings (store : CacheStore) (settings : Settings) : Cache :=
  ⟨store, settings.ignoredDirectories, settings.sourceExtensions⟩

/-- Sources are told by the ending of their names, up to the case of ASCII letters. -/
def isSource (cache : Cache) (path : Path) : Bool :=
  match path.extension? with
  | some ending => cache.sourceExtensions.any fun wanted => Text.sameUpToCase wanted ending
  | none => false

/-- When the sources below a path were changed, ignored directories aside. -/
def sourceTimes (cache : Cache) (host : Host) (path : Path) : List Instant :=
  match host.files.find host.here path, host.files.locate host.here path with
  | .ok _, .ok place =>
    (host.files.filesUnder place).filterMap fun (between, file, modified) =>
      if !(between.any cache.ignoredDirectories.contains) && cache.isSource file then some modified
      else none
  | _, _ => []

/-- When the newest source was changed. A file whose time falls on no day with a name cannot be told the
time of; it is no `Instant`, and no file of a tree has it. -/
def newestSource (cache : Cache) (host : Host) (path : Path) : Option Instant :=
  match cache.sourceTimes host path with
  | [] => none
  | time :: times => some (times.foldl Instant.latest time)

/-- Whether an entry was made under these options and no source of the unit is newer. -/
def isFresh (cache : Cache) (host : Host) (unit : BuildUnit) (fingerprint : String)
    (entry : CacheEntry) : Bool :=
  entry.fingerprint == fingerprint
    && match cache.newestSource host unit.path with
      | some newest => !newest.isAfter entry.savedAt
      | none => true

/-- The report kept on a unit, if it may stand in for a scan. -/
def lookup (cache : Cache) (host : Host) (unit : BuildUnit) (fingerprint : String) :
    Option UnitReport := do
  let entry ← cache.store.load host (shortKey unit.name)
  if cache.isFresh host unit fingerprint entry then
    pure { entry.report with fromCache := true }
  else none

/-- Keeps a report. Where that fails, the run goes on without. -/
def record (cache : Cache) (host : Host) (unit : BuildUnit) (fingerprint : String)
    (report : UnitReport) : Host :=
  (cache.store.save host host.token
    { key := shortKey unit.name
      unit := unit.name
      fingerprint := fingerprint
      report := { report with fromCache := false }
      savedAt := host.now }).1

end Cache
end MonorepoCheck
