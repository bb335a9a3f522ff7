import Mathlib.Data.List.TakeWhile
import MonorepoCheck.Proofs.Cache.Room
import MonorepoCheck.Proofs.Cache.Sources
import MonorepoCheck.Proofs.Files.Disk

/-!
The newest source of a directory. Ignored names keep a walk out of the directories that bear them, but
not out of the one it starts from, and files may have any name. What a lookup answers depends on the
files that such a walk meets and on nothing else below the directory.
-/
namespace MonorepoCheck

namespace Instant

theorem latest_cases (a b : Instant) : latest a b = a ∨ latest a b = b := by
  rw [latest]
  split
  · exact .inl rfl
  · exact .inr rfl

theorem foldl_latest_mem (times : List Instant) (start : Instant) :
    times.foldl latest start ∈ start :: times := by
  induction times generalizing start with
  | nil => exact List.mem_cons_self
  | cons time times ih =>
      rw [List.foldl_cons]
      rcases List.mem_cons.mp (ih (latest start time)) with here | later
      · rw [here]
        rcases latest_cases start time with same | same <;> simp [same]
      · simp [later]

theorem foldl_latest_notAfter (times : List Instant) (start limit : Instant) :
    (times.foldl latest start).NotAfter limit ↔ ∀ time ∈ start :: times, time.NotAfter limit := by
  simp [NotAfter, ← Bool.not_eq_true, foldl_latest_isAfter]

end Instant

namespace Path

/-- What follows the last dot of a name, unless that dot stands at its front. -/
def Ends (name ending : String) : Prop :=
  ∃ stem, stem ≠ [] ∧ name.toList = stem ++ '.' :: ending.toList ∧ '.' ∉ ending.toList

theorem cutExtension_some {name ending : List Char} :
    (cutExtension name).2 = some ending ↔
      ∃ stem, stem ≠ [] ∧ name = stem ++ '.' :: ending ∧ '.' ∉ ending := by
  constructor
  · intro cut
    rw [cutExtension] at cut
    split at cut
    · cases cut
    · rename_i dot stem behind
      have point := List.head?_dropWhile_not (· != '.') name.reverse
      rw [behind] at point
      obtain rfl : dot = '.' := by simpa using point
      split at cut
      · cases cut
      · rename_i some'
        obtain rfl := Option.some.inj cut
        have parts := List.takeWhile_append_dropWhile (p := (· != '.')) (l := name.reverse)
        rw [behind] at parts
        refine ⟨stem.reverse, by simpa using some', ?_, ?_⟩
        · simpa using congrArg List.reverse parts.symm
        · intro member
          exact absurd (List.mem_takeWhile_imp (List.mem_reverse.mp member)) (by decide)
  · rintro ⟨stem, some', rfl, whole⟩
    have plain : ∀ c ∈ ending.reverse, (c != '.') = true := by
      intro c member
      have other : c ≠ '.' := fun same => whole (same ▸ List.mem_reverse.mp member)
      simpa using other
    simp [cutExtension, List.dropWhile_append_of_pos plain, List.takeWhile_append_of_pos plain, some']

theorem extension?_pathOf {front : Location} {name ending : String}
    (plain : PlainPlace (front ++ [name])) :
    (FileTree.pathOf (front ++ [name])).extension? = some ending ↔ Ends name ending := by
  have own := plain name (by simp)
  rw [pathOf_snoc plain.left (relative_of_noSlash own.noSlash), extension?, fileName?_join own]
  have spelt : some ending = (some ending.toList).map String.ofList := by simp
  rw [Option.bind_eq_bind, Option.bind_some, spelt,
    (Option.map_injective fun _ _ => String.ofList_inj.mp).eq_iff]
  exact cutExtension_some

end Path

namespace FileTree

theorem below?_iff {place other rest : Location} :
    below? place other = some rest ↔ other = place ++ rest := by
  induction place generalizing other with
  | nil => simp [below?, eq_comm]
  | cons name place ih =>
      cases other with
      | nil => simp [below?]
      | cons first other =>
          by_cases same : name = first
          · simp [below?, same, ih]
          · simp [below?, same, Ne.symm same]

theorem mem_filesUnder_iff {tree : FileTree} {place : Location} {above : List String} {path : Path}
    {time : Instant} :
    (above, path, time) ∈ tree.filesUnder place ↔
      ∃ content rest, (place ++ rest, .file content time) ∈ tree.entries
        ∧ rest.dropLast = above ∧ pathOf (place ++ rest) = path := by
  rw [filesUnder, List.mem_filterMap]
  constructor
  · rintro ⟨⟨other, entry⟩, listed, told⟩
    dsimp only at told
    split at told
    · rename_i content changed rest below
      cases told
      obtain rfl := below?_iff.mp below
      exact ⟨content, rest, listed, rfl, rfl⟩
    · cases told
  · rintro ⟨content, rest, listed, rfl, rfl⟩
    refine ⟨_, listed, ?_⟩
    simp only [below?_iff.mpr rfl]

end FileTree

open FileTree

namespace Cache

section General

variable {cache : Cache} {host later : Host} {directory : Path} {unit : BuildUnit}
  {fingerprint : String} {entry : CacheEntry} {between : List String} {name : String} {time : Instant}

/-- A directory on a disk. -/
structure Surveyed (host : Host) (directory : Path) : Prop where
  disk : host.files.OnDisk
  present : host.isDirectoryAt directory = true

/-- A file below a directory that the checker reads: none of the directories on the way to it has an
ignored name, and the file's own name has one of the endings of sources. -/
structure Watches (cache : Cache) (host : Host) (directory : Path) (between : List String)
    (name : String) (time : Instant) : Prop where
  standing : ∃ content, host.files.entry? (placeOf host.here directory ++ between ++ [name])
    = some (.file content time)
  open' : ∀ step ∈ between, step ∉ cache.ignoredDirectories
  source : ∃ wanted ∈ cache.sourceExtensions, ∃ ending,
    Path.Ends name ending ∧ Text.sameUpToCase wanted ending = true

theorem isSource_iff {front : Location} (plain : PlainPlace (front ++ [name])) :
    cache.isSource (pathOf (front ++ [name])) = true ↔ ∃ wanted ∈ cache.sourceExtensions, ∃ ending,
      Path.Ends name ending ∧ Text.sameUpToCase wanted ending = true := by
  simp only [← Path.extension?_pathOf plain, isSource]
  cases (pathOf (front ++ [name])).extension? <;> simp

section Surveyed

variable (surveyed : Surveyed host directory)
include surveyed

theorem Surveyed.standing : host.files.find host.here directory = .ok .directory
    ∧ host.files.locate host.here directory = .ok (placeOf host.here directory)
    ∧ host.files.entry? (placeOf host.here directory) = some .directory := by
  have found := isDirectoryAt_iff.mp surveyed.present
  exact ⟨found, find_directory found⟩

theorem Watches.plain (watches : cache.Watches host directory between name time) :
    PlainPlace (placeOf host.here directory ++ between ++ [name]) := by
  obtain ⟨_, standing⟩ := watches.standing
  exact (surveyed.disk.names _ (mem_of_entry (by simp) standing)).2

theorem mem_sourceTimes_iff : time ∈ cache.sourceTimes host directory ↔
    ∃ between name, cache.Watches host directory between name time := by
  obtain ⟨found, located, here⟩ := surveyed.standing
  constructor
  · intro member
    simp only [sourceTimes, found, located] at member
    obtain ⟨⟨above, path, modified⟩, listed, kept⟩ := List.mem_filterMap.mp member
    obtain ⟨content, rest, inTree, rfl, rfl⟩ := mem_filesUnder_iff.mp listed
    obtain ⟨some', plain⟩ := surveyed.disk.names _ inTree
    have standing := (surveyed.disk.entry?_iff some').mpr inTree
    dsimp only at kept plain
    split at kept
    · rename_i counts
      cases kept
      obtain ⟨passed, source⟩ := Bool.and_eq_true_iff.mp counts
      rcases List.eq_nil_or_concat' rest with rfl | ⟨between, name, rfl⟩
      · rw [List.append_nil, here] at standing
        cases standing
      · rw [← List.append_assoc] at standing source plain
        rw [List.dropLast_concat] at passed
        have open' : ∀ step ∈ between, step ∉ cache.ignoredDirectories := by simpa using passed
        exact ⟨between, name, ⟨content, standing⟩, open', (isSource_iff plain).mp source⟩
    · cases kept
  · rintro ⟨between, name, watches⟩
    obtain ⟨content, standing⟩ := watches.standing
    have relevant : cache.Relevant host.here directory
        (placeOf host.here directory ++ between ++ [name]) := by
      refine ⟨⟨between ++ [name], below?_iff.mpr (by simp), ?_⟩, ?_⟩
      · simpa using watches.open'
      · exact (isSource_iff (watches.plain surveyed)).mpr watches.source
    exact mem_sourceTimes ⟨_, found⟩ ⟨relevant, standing⟩

theorem Surveyed.times_notAfter {limit : Instant} :
    (∀ time ∈ cache.sourceTimes host directory, time.NotAfter limit) ↔
      ∀ between name time, cache.Watches host directory between name time → time.NotAfter limit := by
  simp only [mem_sourceTimes_iff surveyed]
  constructor
  · exact fun most between name time watches => most time ⟨between, name, watches⟩
  · rintro most time ⟨between, name, watches⟩
    exact most between name time watches

end Surveyed

section Newest

variable {newest : Instant}

theorem newestSource_eq_none_iff :
    cache.newestSource host directory = none ↔ cache.sourceTimes host directory = [] := by
  rw [newestSource]
  cases cache.sourceTimes host directory <;> simp

theorem newestSource_eq_some_iff : cache.newestSource host directory = some newest ↔
    newest ∈ cache.sourceTimes host directory
      ∧ ∀ time ∈ cache.sourceTimes host directory, time.NotAfter newest := by
  rw [newestSource]
  cases cache.sourceTimes host directory with
  | nil => simp
  | cons time times =>
      have bound := (Instant.foldl_latest_notAfter times time _).mp (.refl _)
      rw [Option.some.injEq]
      constructor
      · rintro rfl
        exact ⟨Instant.foldl_latest_mem times time, bound⟩
      · rintro ⟨member, most⟩
        have before := (Instant.foldl_latest_notAfter times time newest).mpr most
        exact before.antisymm (bound newest member)

end Newest

theorem lookup_eq_some_iff {report : UnitReport} : cache.lookup host unit fingerprint = some report ↔
    ∃ entry, cache.store.load host (shortKey unit.name) = some entry ∧ entry.fingerprint = fingerprint
      ∧ (∀ time ∈ cache.sourceTimes host unit.path, time.NotAfter entry.savedAt)
      ∧ { entry.report with fromCache := true } = report := by
  simp only [lookup, Option.bind_eq_bind, Option.bind_eq_some_iff, Option.ite_none_right_eq_some,
    isFresh_iff, and_assoc, Option.pure_def, Option.some.injEq, Instant.NotAfter]

theorem Surveyed.lookup_iff {report : UnitReport} (surveyed : Surveyed host unit.path) :
    cache.lookup host unit fingerprint = some report ↔
      ∃ entry, cache.store.load host (shortKey unit.name) = some entry ∧ entry.fingerprint = fingerprint
        ∧ (∀ between name time, cache.Watches host unit.path between name time →
          time.NotAfter entry.savedAt)
        ∧ { entry.report with fromCache := true } = report := by
  simp only [lookup_eq_some_iff, surveyed.times_notAfter]

/-- Machines with the same entries wherever no ignored directory stands in between have the same
watched files. -/
theorem watches_congr (here : later.here = host.here)
    (same : ∀ between name, (∀ step ∈ between, step ∉ cache.ignoredDirectories) →
      later.files.entry? (placeOf host.here directory ++ between ++ [name])
        = host.files.entry? (placeOf host.here directory ++ between ++ [name])) :
    cache.Watches later directory between name time
      ↔ cache.Watches host directory between name time := by
  constructor
  · rintro ⟨standing, open', source⟩
    rw [here, same between name open'] at standing
    exact ⟨standing, open', source⟩
  · rintro ⟨standing, open', source⟩
    rw [← same between name open', ← here] at standing
    exact ⟨standing, open', source⟩

end General

/-! A unit in a directory whose own name is ignored, with a dependency below it. -/
namespace Sample

def cache : Cache := ⟨⟨⟨"/c"⟩⟩, ["build", "node_modules", "gen.ts"], ["ts"]⟩

def unit : BuildUnit := ⟨⟨"/build"⟩, ".", ⟨"/build/t.json"⟩, []⟩

def entry : CacheEntry :=
  ⟨"cdb4ee2aea69cc6a83331bbe96dc2caa", ".", "", .ofDiagnostics "." [], ⟨10, 0⟩⟩

def host : Host where
  files := ⟨[(["build"], .directory), (["build", "gen.ts"], .file "".toUTF8 ⟨7, 0⟩),
    (["build", "node_modules"], .directory),
    (["build", "node_modules", "dep.ts"], .file "".toUTF8 ⟨20, 0⟩), (["c"], .directory),
    (["c", entry.key ++ ".json"], .file entry.toJson.prettyText.toUTF8 ⟨10, 0⟩)]⟩
  now := ⟨50, 0⟩

/-- A machine after a file was written. -/
def wrote (place : Location) : Host :=
  { host with files := host.files.put place (.file "x".toUTF8 ⟨30, 0⟩) }

def unseen : Host := wrote ["build", "node_modules", "dep.ts"]

def seen : Host := wrote ["build", "gen.ts"]

theorem host_disk : host.files.OnDisk :=
  ⟨by decide +kernel, by decide +kernel, by decide +kernel⟩

theorem host_seen : shortKey unit.name = entry.key
    ∧ placeOf host.here unit.path = ["build"]
    ∧ (host.files.locate host.here (cache.store.entryPath entry.key)).toOption
      = some ["c", entry.key ++ ".json"]
    ∧ host.isDirectoryAt unit.path = true ∧ host.isDirectoryAt ⟨"/c"⟩ = true
    ∧ unseen.isDirectoryAt unit.path = true ∧ seen.isDirectoryAt unit.path = true
    ∧ cache.newestSource host unit.path = some ⟨7, 0⟩
    ∧ cache.newestSource host ⟨"/c"⟩ = none
    ∧ cache.newestSource seen unit.path = some ⟨30, 0⟩ := by
  decide +kernel

theorem entry_plain : PlainKey entry.key := .of_digits (by decide) (by decide)

theorem loaded_host : cache.store.load host (shortKey unit.name) = some entry := by
  obtain ⟨named, _, leads, _⟩ := host_seen
  have located := ok_of_toOption leads
  have content : host.files.fileAt ["c", entry.key ++ ".json"]
      = some entry.toJson.prettyText.toUTF8 := rfl
  rw [named, CacheStore.load_located entry_plain located, CacheStore.kept?, CacheStore.place,
    ← locate_place located, content, Option.bind_some, CacheStore.decoded?_saved, if_pos (by decide)]

theorem loaded_wrote {place : Location} {old : ByteArray} {before : Instant}
    (standing : host.files.entry? place = some (.file old before))
    (other : ["c", entry.key ++ ".json"] ≠ place) :
    cache.store.load (wrote place) (shortKey unit.name) = some entry := by
  obtain ⟨named, _, leads, _⟩ := host_seen
  have free : host.files.entry? place ≠ some .directory := by simp [standing]
  have some' := nonempty_of_entry free
  have stands : (wrote place).files.fileAt (cache.store.place host.here entry.key)
      = host.files.fileAt (cache.store.place host.here entry.key) := by
    rw [CacheStore.place, ← locate_place (ok_of_toOption leads), wrote, fileAt_put_file some',
      if_neg other]
  have directories : KeepsDirectories host.files (wrote place).files :=
    keepsDirectories_put _ some' fun directory => absurd directory free
  have loaded := loaded_host
  rw [named] at loaded ⊢
  have here : (wrote place).here = host.here := rfl
  refine CacheStore.load_of_kept entry_plain here directories ?_ loaded
  rw [CacheStore.kept?, CacheStore.kept?, here, stands]

/-- No walk that keeps out of ignored directories comes to the file that was written. -/
theorem watches_unseen (between : List String) (name : String) (time : Instant) :
    cache.Watches unseen unit.path between name time
      ↔ cache.Watches host unit.path between name time := by
  refine watches_congr rfl fun between name open' => ?_
  rw [host_seen.2.1, unseen, wrote, entry?_put _ (by simp), if_neg]
  intro (same : ["build"] ++ between ++ [name] = ["build", "node_modules"] ++ ["dep.ts"])
  obtain ⟨front, -⟩ := List.append_inj' same rfl
  obtain rfl : between = ["node_modules"] := by simpa using front
  exact open' "node_modules" (by simp) (by decide)

end Sample

end Cache
end MonorepoCheck
