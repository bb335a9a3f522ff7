import MonorepoCheck.Proofs.Cache.Freshness
import MonorepoCheck.Proofs.Cache.Store
import MonorepoCheck.Proofs.Files.Edits

/-!
The sources of a directory, with their contents, and what saving an entry does to the files of a
machine: like an edit, it leaves no file but those that stood and those written since.
-/
namespace MonorepoCheck

open FileTree

namespace CacheStore

variable {store : CacheStore} {host later : Host} {entry : CacheEntry} {token : String}

theorem OnlyFiles.ages (only : OnlyFiles host later)
    (aged : Aged (host.files, host.now) (later.files, host.now)) : Later host later := by
  constructor
  case here => exact only.here
  case aged =>
      show Aged (host.files, host.now) (later.files, later.now)
      rwa [only.now]

/-- What is moved to its place was written a moment before. -/
theorem later_moved {here : Location} {now : Instant} {tree moved : FileTree} {old new : Path}
    {content : ByteArray} (free : tree.entry? (placeOf here old) ≠ some .directory)
    (done : (tree.put (placeOf here old) (.file content now)).renameFile here old new = .ok moved) :
    Aged (tree.put (placeOf here old) (.file content now), now) (moved, now) := by
  have source := nonempty_of_entry free
  obtain ⟨written, time, standing, _, noDirectory, rfl⟩ := renameFile_ok done
  rw [entry?_put _ source, if_pos rfl] at standing
  obtain ⟨rfl, rfl⟩ := Entry.file.inj (Option.some.inj standing)
  exact (Aged.erase source).trans (.put _ (nonempty_of_entry noDirectory))

theorem later_save (store : CacheStore) (host : Host) (token : String) (entry : CacheEntry) :
    Later host (store.save host token entry).1 := by
  rw [save_eq]
  split
  · exact .refl host
  · rename_i first made
    obtain ⟨onlyFirst, gains⟩ := makeDirectories_ok made
    have begun : Later host first := OnlyFiles.ages onlyFirst (.gains gains)
    split
    · exact begun
    · rename_i second wrote
      obtain ⟨onlySecond, free, files⟩ := writeText_ok wrote
      have written : Later first second := by
        apply OnlyFiles.ages onlySecond
        rw [files]
        exact .put _ (nonempty_of_entry free)
      split
      · exact begun.trans written
      · rename_i last moved
        have only : OnlyFiles second { second with files := last } := rfl
        have ended : Later second { second with files := last } := by
          apply OnlyFiles.ages only
          rw [onlySecond.here, files] at moved
          rw [files, onlySecond.now]
          exact later_moved free moved
        exact (begun.trans written).trans ended

end CacheStore

namespace Cache

variable {cache : Cache} {host : Host} {directory : Path} {place : Location} {content : ByteArray}
  {time : Instant}

/-- A place below a directory that the checker reads, if a file stands there. -/
structure Relevant (cache : Cache) (here : Location) (directory : Path) (place : Location) : Prop where
  below : ∃ rest, below? (placeOf here directory) place = some rest
    ∧ rest.dropLast.any cache.ignoredDirectories.contains = false
  source : cache.isSource (pathOf place) = true

/-- A source below a directory stands at a place, with these contents and changed at this time. -/
structure SourceAt (cache : Cache) (host : Host) (directory : Path) (place : Location)
    (content : ByteArray) (time : Instant) : Prop where
  relevant : cache.Relevant host.here directory place
  standing : host.files.entry? place = some (.file content time)

/-- The cache looks at every source of a directory that is there. -/
theorem mem_sourceTimes (present : ∃ entry, host.files.find host.here directory = .ok entry)
    (source : cache.SourceAt host directory place content time) :
    time ∈ cache.sourceTimes host directory := by
  obtain ⟨entry, found⟩ := present
  obtain ⟨leads, located, _⟩ := bind_ok found
  obtain rfl := locate_place located
  obtain ⟨⟨⟨rest, below, open'⟩, source⟩, standing⟩ := source
  have some' : place ≠ [] := nonempty_of_entry (by rw [standing]; simp)
  have listed : (rest.dropLast, pathOf place, time)
      ∈ host.files.filesUnder (placeOf host.here directory) := by
    refine List.mem_filterMap.mpr ⟨(place, .file content time), mem_of_entry some' standing, ?_⟩
    simp only [below]
  rw [sourceTimes]
  simp only [found, located]
  refine List.mem_filterMap.mpr ⟨_, listed, ?_⟩
  simp [open', source]

end Cache
end MonorepoCheck
