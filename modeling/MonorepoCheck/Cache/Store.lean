import MonorepoCheck.Cache.Entry
import MonorepoCheck.Digest.Key
import MonorepoCheck.Failure
import MonorepoCheck.Host
import MonorepoCheck.Json.Printer
import MonorepoCheck.Json.Reader

/-!
A directory of cache entries, one JSON file for each key. An entry that cannot be read, or that
names another key, is none.
-/
namespace MonorepoCheck

structure CacheStore where
  directory : Path
  deriving DecidableEq, Repr, Inhabited

namespace CacheStore

/-- The entries of one workspace among those of all. -/
def ofWorkspace (directory root : Path) : CacheStore := ⟨directory.join ⟨shortKey root.text⟩⟩

def entryPath (store : CacheStore) (key : String) : Path := store.directory.join ⟨key ++ ".json"⟩

def load (store : CacheStore) (host : Host) (key : String) : Option CacheEntry := do
  let text ← (host.readText (store.entryPath key)).toOption
  let entry ← (Json.parseText? text).bind CacheEntry.ofJson?
  if entry.key = key then pure entry else none

/-- Writes an entry beside its place under a name with `token` in it, then moves it there, so that
nobody reads half of it. What is done before a failure stays done. -/
def save (store : CacheStore) (host : Host) (token : String) (entry : CacheEntry) :
    Host × Except Failure Unit :=
  match host.makeDirectories store.directory with
  | .error cause => (host, .error (.cacheNotMade store.directory cause))
  | .ok host =>
    let path := store.entryPath entry.key
    let temporary := path.withExtension ("json." ++ token ++ ".tmp")
    match host.writeText temporary entry.toJson.prettyText with
    | .error cause => (host, .error (.cacheUnwritten temporary cause))
    | .ok host =>
      match host.files.renameFile host.here temporary path with
      | .error cause => (host, .error (.cacheNotReplaced path cause))
      | .ok files => ({ host with files := files }, .ok ())

end CacheStore
end MonorepoCheck
