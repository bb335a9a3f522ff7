import MonorepoCheck.Proofs.Cache.Sources
import MonorepoCheck.Proofs.Scan.History

/-!
Scans among edits. Files are written and removed between the scans and while a checker runs; what a
kept report still says about the sources of its unit when it is handed out.
-/
namespace MonorepoCheck

section General

variable {store : CacheStore} {cache : Cache} {visit writer : Visit}

namespace Visit

/-- A scan during which files are only edited, whoever does it. -/
structure Watched (store : CacheStore) (visit : Visit) : Prop extends visit.Proper store where
  edits : ∀ invocation host, Edits host (visit.plan.runner invocation host).2

/-- The machine on which the report of a scan is kept, once its commands are done. -/
def recording (visit : Visit) : Host := visit.plan.freshHost visit.before visit.unit

theorem later_recording (watched : visit.Watched store) : Later visit.before visit.recording := by
  apply ScanPlan.freshHost_preserves (Later visit.before) ?_ (.refl visit.before)
  intro invocation host past
  -- noting a command down does not touch the files
  have noted : Later host { host with history := host.history ++ [invocation] } :=
    ⟨rfl, .refl _⟩
  exact (past.trans noted).trans (watched.edits invocation _).later

theorem later_after (watched : visit.Watched store) : Later visit.before visit.after := by
  have commands := later_recording watched
  cases kept : visit.plan.keeping? visit.cache visit.before visit.unit with
  | none =>
      rcases after_unkept kept with same | same
      · rw [same]
        exact .refl _
      · rw [same]
        exact commands
  | some keeping =>
      obtain ⟨_, _, _, made⟩ := ScanPlan.keeping?_some kept
      rw [after_kept kept]
      have begun : Later visit.before keeping.host := by
        rw [made]
        exact commands
      exact begun.trans (CacheStore.later_save _ _ _ _)

/-- Once a report is recorded, only the entry itself is written before the scan ends. -/
theorem later_recorded {entry : CacheEntry} (written : writer.written? = some entry) :
    Later writer.recording writer.after ∧ entry.savedAt = writer.recording.now := by
  obtain ⟨keeping, kept, rfl⟩ := written?_some written
  obtain ⟨_, _, _, made⟩ := ScanPlan.keeping?_some kept
  have host : keeping.host = writer.recording := by rw [made]; rfl
  rw [after_kept kept, ← host]
  exact ⟨CacheStore.later_save _ _ _ _, rfl⟩

end Visit

/-- A finite sequence of scans that began with an empty store, among edits that leave the entries of
the store alone, and the machine after it. -/
inductive Timeline (store : CacheStore) : List Visit → Host → Prop where
  | start {host : Host} (empty : ∀ key, store.kept? host key = none) : Timeline store [] host
  | edit {visits : List Visit} {host later : Host} (past : Timeline store visits host)
      (edits : Edits host later) (apart : ∀ key, store.kept? later key = store.kept? host key) :
      Timeline store visits later
  | scan {visits : List Visit} (visit : Visit) (past : Timeline store visits visit.before)
      (watched : visit.Watched store) : Timeline store (visits ++ [visit]) visit.after

namespace Timeline

variable {visits : List Visit} {host : Host}

theorem history (past : Timeline store visits host) : History store visits host := by
  induction past with
  | start empty => exact .start empty
  | edit _ _ apart ih => exact .change ih apart
  | scan visit _ watched ih => exact .scan visit ih watched.toProper

/-- Every scan lies some time back. -/
theorem since (past : Timeline store visits host) :
    ∀ visit ∈ visits, visit.Watched store ∧ Later visit.after host := by
  induction past with
  | start empty => exact fun _ member => nomatch member
  | edit _ edits _ ih =>
      intro visit member
      obtain ⟨watched, back⟩ := ih visit member
      exact ⟨watched, back.trans edits.later⟩
  | scan last _ watched ih =>
      intro visit member
      rcases List.mem_append.mp member with old | new
      · obtain ⟨before, back⟩ := ih visit old
        exact ⟨before, back.trans (Visit.later_after watched)⟩
      · obtain rfl := List.mem_singleton.mp new
        exact ⟨watched, .refl _⟩

end Timeline

/-- Whether a source with these contents stands at a place, whenever it was written. -/
def Cache.Holds (cache : Cache) (host : Host) (directory : Path) (place : Location)
    (content : ByteArray) : Prop :=
  ∃ time, cache.SourceAt host directory place content time

/-- Between the start of the checker and now, nothing befell the sources that their times cannot
tell. -/
structure Undisturbed (cache : Cache) (writer visit : Visit) (savedAt : Instant) : Prop where
  /-- while the checker ran, they were left as they were -/
  meanwhile : ∀ place content, cache.Holds writer.recording visit.unit.path place content
    ↔ cache.Holds writer.before visit.unit.path place content
  /-- none was written after the recording and in the very instant of it -/
  instant : ∀ place content, cache.SourceAt visit.before visit.unit.path place content savedAt →
    cache.Holds writer.recording visit.unit.path place content
  /-- none is gone -/
  standing : ∀ place content, cache.Holds writer.before visit.unit.path place content →
    ∃ other, cache.Holds visit.before visit.unit.path place other

/-- What a report that was kept by `writer` says about the sources that `visit` finds. -/
structure Vouches (cache : Cache) (writer visit : Visit) (savedAt : Instant) : Prop where
  recorded : ∀ place content time,
    cache.SourceAt visit.before visit.unit.path place content time →
    cache.SourceAt writer.recording visit.unit.path place content time ∨ time = savedAt
  begun : ∀ place content time,
    cache.SourceAt writer.recording visit.unit.path place content time →
    cache.SourceAt writer.before visit.unit.path place content time
      ∨ writer.before.now.NotAfter time
  same : Undisturbed cache writer visit savedAt → ∀ place content,
    cache.Holds visit.before visit.unit.path place content
      ↔ cache.Holds writer.before visit.unit.path place content

namespace Cache

variable {host later : Host} {directory : Path} {place : Location} {content other : ByteArray}
  {time : Instant}

/-- A source stood there before, or it was written since. -/
theorem SourceAt.back (back : Later host later)
    (source : cache.SourceAt later directory place content time) :
    cache.SourceAt host directory place content time ∨ host.now.NotAfter time := by
  have relevant : cache.Relevant host.here directory place := back.here ▸ source.relevant
  rcases back.aged.files place content time source.standing with stood | new
  · exact .inl ⟨relevant, stood⟩
  · exact .inr new

theorem Holds.unique (first : cache.Holds host directory place content)
    (second : cache.Holds host directory place other) : content = other := by
  obtain ⟨_, _, standing⟩ := first
  obtain ⟨_, _, again⟩ := second
  exact (Entry.file.inj (Option.some.inj (standing.symm.trans again))).1

end Cache

theorem Visit.vouches {savedAt : Instant} (watched : writer.Watched store)
    (moment : savedAt = writer.recording.now) (back : Later writer.recording visit.before)
    (older : ∀ place content time,
      cache.SourceAt visit.before visit.unit.path place content time → time.NotAfter savedAt) :
    Vouches cache writer visit savedAt := by
  have recorded : ∀ place content time,
      cache.SourceAt visit.before visit.unit.path place content time →
      cache.SourceAt writer.recording visit.unit.path place content time ∨ time = savedAt := by
    intro place content time source
    rcases source.back back with stood | new
    · exact .inl stood
    -- written since the recording, yet not after it: it was written in that instant
    · have now := older place content time source
      rw [moment] at now ⊢
      exact .inr (now.antisymm new)
  constructor
  case recorded => exact recorded
  case begun => exact fun _ _ _ source => source.back (later_recording watched)
  case same =>
      intro undisturbed
      have forward : ∀ place content, cache.Holds visit.before visit.unit.path place content →
          cache.Holds writer.recording visit.unit.path place content := by
        rintro place content ⟨time, source⟩
        rcases recorded place content time source with stood | rfl
        · exact ⟨time, stood⟩
        · exact undisturbed.instant place content source
      intro place content
      constructor
      · intro here
        exact (undisturbed.meanwhile place content).mp (forward place content here)
      · intro stood
        obtain ⟨other, here⟩ := undisturbed.standing place content stood
        -- what stands there now stood there at the recording, and a place holds one content
        have before := (undisturbed.meanwhile place content).mpr stood
        rwa [before.unique (forward place other here)]

end General

/-! The unit that is scanned twice, with one source more. In between, or while the checker runs, that
source is removed or overwritten, and the times do not tell. -/
namespace Mishap

open FileTree
open Revisit (unit cache entry)

/-- What befalls the source. -/
inductive Kind where
  | removed
  | whileChecked
  | sameInstant

def source : Location := ["w", "a.ts"]

def host : Host where
  files := ⟨Revisit.host.files.entries ++ [(source, .file "old".toUTF8 ⟨5, 0⟩)]⟩
  now := ⟨10, 0⟩

def overwrite (host : Host) : Host :=
  match host.writeText ⟨"/w/a.ts"⟩ "newer" with
  | .ok later => later
  | .error _ => host

def runner : Kind → Runner
  | .whileChecked => fun invocation host => ((Revisit.runner invocation host).1, overwrite host)
  | _ => Revisit.runner

def plan (kind : Kind) : ScanPlan := { Revisit.plan with runner := runner kind }

def first (kind : Kind) : Visit := ⟨plan kind, some cache, unit, host⟩

/-- What happens between the scans. -/
def meanwhile (kind : Kind) (host : Host) : Host :=
  match kind with
  | .removed => { host with files := host.files.erase source }
  | .whileChecked => host
  | .sameInstant => overwrite host

def second (kind : Kind) : Visit := ⟨plan kind, some cache, unit, meanwhile kind (first kind).after⟩

/-- The machine after the checker. -/
def checked (kind : Kind) : Host :=
  let host := { host with history := [Revisit.plan.checkerInvocation unit] }
  match kind with
  | .whileChecked => overwrite host
  | _ => host

/-- The machine after the first scan. -/
def saved (kind : Kind) : Host := (cache.store.save (checked kind) (checked kind).token entry).1

theorem place_ne_source (key : String) (here : Location) : cache.store.place here key ≠ source := by
  obtain ⟨front, name, place⟩ := CacheStore.place_ends cache.store key here
  rw [place]
  intro same
  have names : name ++ ".json" = "a.ts" := by simpa [source] using congrArg List.getLast? same
  have lasts := congrArg (fun text => text.toList.getLast?) names
  simp at lasts

/-- Files are edited, but none of the cache. -/
structure Spares (host later : Host) : Prop where
  edits : Edits host later
  directories : KeepsDirectories host.files later.files
  entries : ∀ key, cache.store.kept? later key = cache.store.kept? host key

theorem Spares.refl (host : Host) : Spares host host :=
  ⟨.refl host, fun _ directory => directory, fun _ => rfl⟩

theorem spares_overwrite (host : Host) : Spares host (overwrite host) := by
  unfold overwrite
  split
  · rename_i later wrote
    obtain ⟨only, free, files⟩ := CacheStore.writeText_ok wrote
    have place : placeOf host.here ⟨"/w/a.ts"⟩ = source := rfl
    rw [place] at free files
    have some' := nonempty_of_entry free
    constructor
    case edits =>
        refine ⟨only.here, .single ?_⟩
        rw [Host.moment, Host.moment, only.now, files]
        exact .write source _ free
    case directories =>
        rw [files]
        exact keepsDirectories_put _ some' fun directory => absurd directory free
    case entries =>
        intro key
        rw [CacheStore.kept?, CacheStore.kept?, only.here, files, fileAt_put_file some',
          if_neg (place_ne_source key host.here)]
  · exact .refl host

theorem spares_meanwhile (kind : Kind) {host : Host}
    (free : host.files.entry? source ≠ some .directory) : Spares host (meanwhile kind host) := by
  cases kind with
  | removed =>
      have some' := nonempty_of_entry free
      constructor
      case edits => exact ⟨rfl, .single (.remove source some')⟩
      case directories => exact keepsDirectories_erase free
      case entries =>
          intro key
          have spared : (host.files.erase source).fileAt (cache.store.place host.here key)
              = host.files.fileAt (cache.store.place host.here key) :=
            (fileAt_erase some').trans (if_neg (place_ne_source key host.here))
          exact congrArg (Option.bind · (CacheStore.decoded? key)) spared
  | whileChecked => exact .refl host
  | sameInstant => exact spares_overwrite host

/-- What the first scan sees. -/
theorem first_seen (kind : Kind) :
    (plan kind).keptReport? (some cache) host unit = none
      ∧ ((plan kind).collect host unit).1.degraded = none
      ∧ host.isFileAt unit.configuration = true
      ∧ ScanPlan.Keeping.entry ⟨cache, checked kind, (plan kind).freshReport host unit⟩
          (plan kind) unit = entry := by
  cases kind <;> decide +kernel

theorem entry_saved (kind : Kind) : cache.store.save (checked kind) (checked kind).token entry
    = ({ checked kind with files := cache.store.filled (checked kind) entry }, .ok ()) := by
  have room : cache.store.Room (checked kind) entry.key (checked kind).token := by
    cases kind <;> decide +kernel
  exact CacheStore.save_of_room Revisit.entry_plain
    (by cases kind <;> constructor <;> decide) room

/-- What the second scan sees. -/
theorem second_seen (kind : Kind) :
    ((saved kind).files.fileAt source).isSome = true
      ∧ ((meanwhile kind (saved kind)).files.find (meanwhile kind (saved kind)).here unit.path).toBool
          = true
      ∧ (∀ time ∈ cache.sourceTimes (meanwhile kind (saved kind)) unit.path,
          time.isAfter entry.savedAt = false)
      ∧ ((meanwhile kind (saved kind)).files.fileAt source).map ByteArray.size ≠ some 3
      ∧ entry.fits = true ∧ entry.fingerprint = (plan kind).fingerprint := by
  rw [saved, entry_saved]
  cases kind <;> decide +kernel

theorem freshHost_eq (kind : Kind) : (plan kind).freshHost host unit = checked kind := by
  rw [ScanPlan.freshHost_readOnly rfl, ScanPlan.collect_of_file (first_seen kind).2.2.1]
  cases kind <;> rfl

theorem first_kept (kind : Kind) : (plan kind).keeping? (some cache) host unit
    = some ⟨cache, checked kind, (plan kind).freshReport host unit⟩ := by
  obtain ⟨missed, whole, _⟩ := first_seen kind
  rw [ScanPlan.keeping?_of_whole missed whole, freshHost_eq]

theorem first_after (kind : Kind) : (first kind).after = saved kind := by
  have after := @Visit.after_kept (first kind) _ (first_kept kind)
  rw [show ScanPlan.Keeping.entry _ (first kind).plan (first kind).unit = entry from
    (first_seen kind).2.2.2] at after
  exact after

theorem first_saved (kind : Kind) : CacheStore.Saved cache.store (checked kind) entry (saved kind) := by
  rcases CacheStore.save_spec Revisit.entry_plain (Prod.eta _).symm with ⟨_, saved⟩ | ⟨⟨_, failed⟩, _⟩
  · exact saved
  · rw [entry_saved] at failed
    cases failed

theorem source_free (kind : Kind) : FileTree.entry? (saved kind).files source ≠ some .directory := by
  intro directory
  have file := (second_seen kind).1
  rw [FileTree.fileAt, directory] at file
  cases file

theorem second_served (kind : Kind) : (second kind).report.fromCache = true := by
  obtain ⟨_, _, older, _, fits, sameOptions⟩ := second_seen kind
  have spares := spares_meanwhile kind (source_free kind)
  have loaded : cache.store.load (meanwhile kind (saved kind)) (shortKey unit.name) = some entry := by
    rw [Revisit.shortKey_unit]
    exact CacheStore.load_of_kept Revisit.entry_plain spares.edits.here spares.directories
      (spares.entries entry.key) ((first_saved kind).load_self Revisit.entry_plain fits)
  have served : (plan kind).keptReport? (some cache) (meanwhile kind (saved kind)) unit
      = some { entry.report with fromCache := true } :=
    ScanPlan.keptReport?_of_load rfl rfl loaded (Cache.isFresh_iff.mpr ⟨sameOptions, older⟩)
  rw [Visit.report, show (second kind).plan.scan (second kind).cache (second kind).before
    (second kind).unit = (plan kind).scan (some cache) (meanwhile kind (first kind).after) unit
      from rfl, first_after, ScanPlan.scan_served served]

theorem host_empty (key : String) : cache.store.kept? host key = none := by
  have nothing (text : String) (plain : text = "{}" ∨ text = "old") :
      (Json.parseText? text).bind CacheEntry.ofJson? = none := by
    rcases plain with rfl | rfl <;> decide +kernel
  rw [CacheStore.kept?]
  cases found : host.files.fileAt (cache.store.place host.here key) with
  | none => rfl
  | some content =>
      obtain ⟨time, listed⟩ := mem_of_fileAt found
      have plain : ∃ text, (text = "{}" ∨ text = "old") ∧ content = text.toUTF8 := by
        simp only [host, Revisit.host, List.cons_append, List.nil_append, List.mem_cons,
          List.not_mem_nil, Prod.mk.injEq, or_false, reduceCtorEq, and_false, false_or,
          Entry.file.injEq] at listed
        rcases listed with ⟨_, same, _⟩ | ⟨_, same, _⟩
        · exact ⟨_, .inl rfl, same⟩
        · exact ⟨_, .inr rfl, same⟩
      obtain ⟨text, read, rfl⟩ := plain
      rw [Option.bind_some, CacheStore.decoded?, CacheStore.fromUTF8?_toUTF8, Option.bind_eq_bind,
        Option.bind_some, nothing text read]
      rfl

theorem spares_runner (kind : Kind) (invocation : Invocation) (host : Host) :
    Spares host (runner kind invocation host).2 := by
  cases kind with
  | removed => exact .refl host
  | whileChecked => exact spares_overwrite host
  | sameInstant => exact .refl host

theorem first_watched (kind : Kind) : (first kind).Watched cache.store := by
  constructor
  case toProper =>
      constructor
      case storeShared =>
          intro other cached
          obtain rfl := Option.some.inj cached
          rfl
      case storeOwned => exact fun invocation host => (spares_runner kind invocation host).entries
  case edits => exact fun invocation host => (spares_runner kind invocation host).edits

theorem timeline (kind : Kind) : Timeline cache.store [first kind] (second kind).before := by
  have scanned : Timeline cache.store [first kind] (first kind).after :=
    .scan (first kind) (.start host_empty) (first_watched kind)
  have free := source_free kind
  rw [← first_after] at free
  have spares := spares_meanwhile kind free
  exact .edit scanned spares.edits spares.entries

theorem second_before (kind : Kind) : (second kind).before = meanwhile kind (saved kind) := by
  rw [← first_after]
  rfl

/-- The second scan hands out the report of the first one, although the sources are not those that
the checker was started on. -/
structure Stale (kind : Kind) : Prop where
  timeline : Timeline cache.store [first kind] (second kind).before
  cached : (second kind).cache = some cache
  sameUnit : (second kind).unit = (first kind).unit
  present : ∃ entry,
    (second kind).before.files.find (second kind).before.here (second kind).unit.path = .ok entry
  served : (second kind).report.fromCache = true
  differ : ¬ ∀ place content, cache.Holds (second kind).before (second kind).unit.path place content
    ↔ cache.Holds (first kind).before (first kind).unit.path place content

theorem stale (kind : Kind) : Stale kind := by
  obtain ⟨_, present, _, changed, _⟩ := second_seen kind
  rw [← second_before] at present changed
  constructor
  case timeline => exact timeline kind
  case cached => rfl
  case sameUnit => rfl
  case served => exact second_served kind
  case present =>
      cases result : (second kind).before.files.find (second kind).before.here unit.path with
      | error cause => rw [result] at present; cases present
      | ok entry => exact ⟨entry, result⟩
  case differ =>
      intro same
      have began : cache.Holds host unit.path source "old".toUTF8 := by
        refine ⟨⟨5, 0⟩, ⟨⟨["a.ts"], rfl, rfl⟩, by decide +kernel⟩, ?_⟩
        rfl
      obtain ⟨time, _, standing⟩ := (same source "old".toUTF8).mpr began
      apply changed
      rw [FileTree.fileAt, standing]
      exact congrArg some (by decide +kernel : "old".toUTF8.size = 3)

end Mishap

end MonorepoCheck
