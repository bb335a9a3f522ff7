import MonorepoCheck.Proofs.Cache.Freshness
import MonorepoCheck.Proofs.Cache.Room
import MonorepoCheck.Proofs.Scan.Collected
import MonorepoCheck.Proofs.Scan.Fingerprint

/-!
Where kept reports come from, over whole histories of scans that share a store: every one of them
was made by the last scan of its unit that could write, under the same options.
-/
namespace MonorepoCheck

/-- A scan of a unit, with the machine it found. -/
structure Visit where
  plan : ScanPlan
  cache : Option Cache
  unit : BuildUnit
  before : Host

namespace Visit

/-- The report that the scan gave out. -/
def report (visit : Visit) : UnitReport :=
  (visit.plan.scan visit.cache visit.before visit.unit).1

/-- The machine that the scan left. -/
def after (visit : Visit) : Host := (visit.plan.scan visit.cache visit.before visit.unit).2

/-- The entry that the scan wrote, if it tried to keep its report and could write. -/
def written? (visit : Visit) : Option CacheEntry :=
  match visit.plan.keeping? visit.cache visit.before visit.unit with
  | none => none
  | some keeping =>
    let entry := keeping.entry visit.plan visit.unit
    match (keeping.cache.store.save keeping.host keeping.host.token entry).2 with
    | .ok () => some entry
    | .error _ => none

/-- Scans of a workspace keep their reports in its store. Its files are the cache's own: no command
touches them. -/
structure Proper (store : CacheStore) (visit : Visit) : Prop where
  storeShared : ∀ cache, visit.cache = some cache → cache.store = store
  storeOwned : ∀ invocation host key,
    store.kept? (visit.plan.runner invocation host).2 key = store.kept? host key

end Visit

/-- A finite sequence of scans that began with an empty store, and the machine after it. In between
anything may happen to the machine that leaves the entries of the store alone. -/
inductive History (store : CacheStore) : List Visit → Host → Prop where
  | start {host : Host} (empty : ∀ key, store.kept? host key = none) : History store [] host
  | change {visits : List Visit} {host later : Host} (past : History store visits host)
      (apart : ∀ key, store.kept? later key = store.kept? host key) : History store visits later
  | scan {visits : List Visit} (visit : Visit) (past : History store visits visit.before)
      (proper : visit.Proper store) : History store (visits ++ [visit]) visit.after

variable {store : CacheStore} {visit : Visit}

namespace Visit

theorem commands_keep (proper : visit.Proper store) (key : String) :
    store.kept? (visit.plan.freshHost visit.before visit.unit) key
      = store.kept? visit.before key :=
  ScanPlan.freshHost_preserves
    (fun host => store.kept? host key = store.kept? visit.before key)
    (fun invocation _ same => (proper.storeOwned invocation _ key).trans same) rfl

theorem report_missed
    (missed : visit.plan.keptReport? visit.cache visit.before visit.unit = none) :
    visit.report = visit.plan.freshReport visit.before visit.unit :=
  ScanPlan.scan_missed missed

theorem after_missed
    (missed : visit.plan.keptReport? visit.cache visit.before visit.unit = none)
    (unkept : visit.plan.keeping? visit.cache visit.before visit.unit = none) :
    visit.after = visit.plan.freshHost visit.before visit.unit :=
  ScanPlan.scan_unkept missed unkept

theorem after_kept {keeping : ScanPlan.Keeping}
    (kept : visit.plan.keeping? visit.cache visit.before visit.unit = some keeping) :
    visit.after = (keeping.cache.store.save keeping.host keeping.host.token
      (keeping.entry visit.plan visit.unit)).1 :=
  ScanPlan.scan_kept kept

theorem after_unkept
    (unkept : visit.plan.keeping? visit.cache visit.before visit.unit = none) :
    visit.after = visit.before ∨ visit.after = visit.plan.freshHost visit.before visit.unit := by
  cases served : visit.plan.keptReport? visit.cache visit.before visit.unit with
  | some report => exact .inl (congrArg Prod.snd (ScanPlan.scan_served served))
  | none => exact .inr (after_missed served unkept)

/-- What a scan does to the store: it replaces the entry that it could write, and nothing else. -/
theorem kept?_after (proper : visit.Proper store) {key : String} (plain : PlainKey key) :
    store.kept? visit.after key =
      match visit.written? with
      | none => store.kept? visit.before key
      | some entry =>
        if key = entry.key then (if entry.fits then some entry else none)
        else store.kept? visit.before key := by
  have commands := commands_keep proper key
  cases kept : visit.plan.keeping? visit.cache visit.before visit.unit with
  | none =>
      simp only [written?, kept]
      rcases after_unkept kept with same | same
      · rw [same]
      · rw [same, commands]
  | some keeping =>
      obtain ⟨missed, cached, whole, made⟩ := ScanPlan.keeping?_some kept
      have shared := proper.storeShared _ cached
      have fresh : keeping.host = visit.plan.freshHost visit.before visit.unit := by rw [made]
      have after : visit.after = (store.save keeping.host keeping.host.token
          (keeping.entry visit.plan visit.unit)).1 := by
        rw [← shared]
        exact after_kept kept
      have plainEntry : PlainKey (keeping.entry visit.plan visit.unit).key := .shortKey _
      simp only [written?, kept, shared]
      have parts : store.save keeping.host keeping.host.token (keeping.entry visit.plan visit.unit)
          = (visit.after, (store.save keeping.host keeping.host.token
              (keeping.entry visit.plan visit.unit)).2) := by
        rw [after]
      -- a save that fails leaves the files of all keys alone
      rcases CacheStore.save_spec plainEntry parts with
        ⟨went, saved⟩ | ⟨⟨cause, failed⟩, unsaved⟩
      · rw [went]
        dsimp only
        by_cases same : key = (keeping.entry visit.plan visit.unit).key
        · rw [if_pos same, same]
          exact saved.kept?_self
        · rw [if_neg same, saved.kept?_other plain same, fresh, commands]
      · rw [failed, unsaved.kept?_eq plain, fresh, commands]

theorem written?_of_kept {keeping : ScanPlan.Keeping}
    (kept : visit.plan.keeping? visit.cache visit.before visit.unit = some keeping)
    (went : (keeping.cache.store.save keeping.host keeping.host.token
      (keeping.entry visit.plan visit.unit)).2 = .ok ()) :
    visit.written? = some (keeping.entry visit.plan visit.unit) := by
  simp only [written?, kept, went]

theorem written?_some {entry : CacheEntry} (written : visit.written? = some entry) :
    ∃ keeping, visit.plan.keeping? visit.cache visit.before visit.unit = some keeping
      ∧ entry = keeping.entry visit.plan visit.unit := by
  unfold written? at written
  split at written
  · cases written
  · rename_i keeping kept
    dsimp only at written
    split at written
    · exact ⟨keeping, kept, (Option.some.inj written).symm⟩
    · cases written

theorem written?_key {entry : CacheEntry} (written : visit.written? = some entry) :
    entry.key = shortKey visit.unit.name := by
  obtain ⟨keeping, _, rfl⟩ := written?_some written
  rfl

end Visit

/-- Every entry in the store was written by a scan, and no later scan could write under its key. -/
theorem History.written {visits : List Visit} {host : Host} (past : History store visits host)
    {key : String} (plain : PlainKey key) {entry : CacheEntry}
    (kept : store.kept? host key = some entry) :
    ∃ before writer later, visits = before ++ writer :: later ∧ writer.written? = some entry
      ∧ entry.key = key
      ∧ ∀ between ∈ later, shortKey between.unit.name = key → between.written? = none := by
  induction past with
  | start empty => simp [empty] at kept
  | change _ apart ih => exact ih (by rw [← apart]; exact kept)
  | @scan visits visit _ proper ih =>
      -- either this scan wrote the entry, or it stood before the scan and the scan could not
      -- replace it
      rw [Visit.kept?_after proper plain] at kept
      cases wrote : visit.written? with
      | none =>
          rw [wrote] at kept
          obtain ⟨before, writer, later, rfl, written, same, none'⟩ := ih kept
          refine ⟨before, writer, later ++ [visit], by simp, written, same, ?_⟩
          intro between member keyed
          rcases List.mem_append.mp member with old | new
          · exact none' between old keyed
          · obtain rfl := List.mem_singleton.mp new
            exact wrote
      | some new =>
          rw [wrote] at kept
          dsimp only at kept
          split at kept
          · rename_i same
            split at kept
            · obtain rfl := Option.some.inj kept
              exact ⟨visits, visit, [], rfl, wrote, same.symm, by simp⟩
            · cases kept
          · rename_i different
            obtain ⟨before, writer, later, rfl, written, same, none'⟩ := ih kept
            refine ⟨before, writer, later ++ [visit], by simp, written, same, ?_⟩
            intro between member keyed
            rcases List.mem_append.mp member with old | added
            · exact none' between old keyed
            · obtain rfl := List.mem_singleton.mp added
              exact absurd ((Visit.written?_key wrote).trans keyed).symm different

/-- What a scan must have been for its report to stand in for another scan. -/
structure StandsFor (writer visit : Visit) (moment : Instant) : Prop where
  sameUnit : writer.unit.name = visit.unit.name
  sameReport : visit.report = { writer.report with fromCache := true }
  fresh : writer.report.fromCache = false
  whole : (writer.plan.collect writer.before writer.unit).1.degraded = none
  readOnly : writer.plan.modifiesSources = false
  sameLevel : writer.plan.level = visit.plan.level
  sameDryRun : writer.plan.dryRun = visit.plan.dryRun
  sameFilter : writer.plan.filter.fingerprint = visit.plan.filter.fingerprint
  /-- no source of the unit was changed after the report was kept -/
  unchanged : ∀ cache, visit.cache = some cache →
    ∀ time ∈ cache.sourceTimes visit.before visit.unit.path, time.isAfter moment = false

/-- Where a report that was not made anew comes from. -/
structure Provenance (visits : List Visit) (visit : Visit) : Prop where
  readOnly : visit.plan.modifiesSources = false
  /-- neither a command was run nor anything else done -/
  idle : visit.after = visit.before
  /-- the last scan of the unit that could write stands in for this one -/
  source : ∃ before writer later entry, visits = before ++ writer :: later
    ∧ writer.written? = some entry ∧ StandsFor writer visit entry.savedAt
    ∧ ∀ between ∈ later, between.unit.name = visit.unit.name → between.written? = none

/-- An entry that one scan wrote, and another hands out. -/
structure Serves (cache : Cache) (entry : CacheEntry) (writer visit : Visit) : Prop where
  written : writer.written? = some entry
  sameUnit : writer.unit.name = visit.unit.name
  cached : visit.cache = some cache
  fresh : cache.isFresh visit.before visit.unit visit.plan.fingerprint entry = true
  readOnly : visit.plan.modifiesSources = false
  handedOut : visit.report = { entry.report with fromCache := true }
  idle : visit.after = visit.before

namespace Serves

variable {cache : Cache} {entry : CacheEntry} {writer : Visit}

theorem standsFor (serves : Serves cache entry writer visit) :
    StandsFor writer visit entry.savedAt := by
  obtain ⟨written, sameUnit, cached, fresh, readOnly, handedOut, _⟩ := serves
  obtain ⟨keeping, kept, rfl⟩ := Visit.written?_some written
  obtain ⟨missed, _, whole, made⟩ := ScanPlan.keeping?_some kept
  -- an entry is fresh only under the options that its fingerprint spells out
  obtain ⟨sameOptions, unchanged⟩ := Cache.isFresh_iff.mp fresh
  obtain ⟨level, dryRun, filter⟩ := ScanPlan.fingerprint_injective sameOptions
  have report : writer.report = keeping.report := by
    rw [made]
    exact Visit.report_missed missed
  constructor
  case sameUnit => exact sameUnit
  case sameReport => rw [handedOut, report]; rfl
  case fresh => rw [report, made]; exact ScanPlan.freshReport_fromCache
  case whole => exact whole
  case readOnly => rw [ScanPlan.modifiesSources, level, dryRun]; exact readOnly
  case sameLevel => exact level
  case sameDryRun => exact dryRun
  case sameFilter => exact filter
  case unchanged =>
      intro other otherCached
      obtain rfl := Option.some.inj (cached.symm.trans otherCached)
      exact unchanged

end Serves

/-- A report from the cache was written by an earlier scan of the unit, and by none since. -/
theorem History.served {visits : List Visit} (past : History store visits visit.before)
    (shared : ∀ cache, visit.cache = some cache → cache.store = store)
    (apart : ∀ earlier ∈ visits, shortKey earlier.unit.name = shortKey visit.unit.name →
      earlier.unit.name = visit.unit.name)
    (served : visit.report.fromCache = true) :
    ∃ before writer later cache entry, visits = before ++ writer :: later
      ∧ Serves cache entry writer visit
      ∧ ∀ between ∈ later, between.unit.name = visit.unit.name → between.written? = none := by
  cases found : visit.plan.keptReport? visit.cache visit.before visit.unit with
  | none =>
      have fresh : visit.report.fromCache = false := by
        rw [Visit.report_missed found]
        exact ScanPlan.freshReport_fromCache
      simp [fresh] at served
  | some report =>
      have scanned := ScanPlan.scan_served found
      obtain ⟨readOnly, cache, entry, cached, loaded, fresh, handedOut⟩ :=
        ScanPlan.keptReport?_some found
      rw [shared cache cached] at loaded
      have plain : PlainKey (shortKey visit.unit.name) := .shortKey _
      obtain ⟨before, writer, later, rfl, written, keyed, none'⟩ :=
        past.written plain (CacheStore.kept?_of_load plain loaded)
      -- the store knows units by their keys alone; `apart` says that these tell the units apart
      have sameUnit : writer.unit.name = visit.unit.name :=
        apart writer (by simp) ((Visit.written?_key written).symm.trans keyed)
      refine ⟨before, writer, later, cache, entry, rfl, ?_, ?_⟩
      · exact ⟨written, sameUnit, cached, fresh, readOnly,
          (congrArg Prod.fst scanned).trans handedOut, congrArg Prod.snd scanned⟩
      · exact fun between member same => none' between member (by rw [same])

/-! A unit that is scanned twice, the second time without any change in between. -/
namespace Revisit

def unit : BuildUnit := ⟨⟨"/w"⟩, ".", ⟨"/w/t.json"⟩, []⟩

/-- The checker finds one thing and changes nothing. -/
def runner : Runner := fun _ host => (.completed false (some 2) "a.ts(1,2): error TS1: no\n", host)

def plan : ScanPlan :=
  ⟨⟨"/w"⟩, { Settings.default with attachSnippets := false, attachHints := false }, ⟨[], []⟩, .none,
    false, runner⟩

def cache : Cache := .ofSettings ⟨⟨"/c"⟩⟩ plan.settings

def host : Host where
  files := ⟨[(["w"], .directory), (["w", "t.json"], .file "{}".toUTF8 ⟨5, 0⟩)]⟩
  now := ⟨10, 0⟩

def first : Visit := ⟨plan, some cache, unit, host⟩

def second : Visit := ⟨plan, some cache, unit, first.after⟩

/-- The machine after the command. -/
def checked : Host := { host with history := [plan.checkerInvocation unit] }

def entry : CacheEntry where
  key := "cdb4ee2aea69cc6a83331bbe96dc2caa"
  unit := "."
  fingerprint := "codes=;files=;fix=none;dry_run=false"
  report := .ofDiagnostics "." [⟨"a.ts", 1, 2, "TS1", "no", none, none⟩]
  savedAt := ⟨10, 0⟩

theorem shortKey_unit : shortKey unit.name = entry.key := by decide +kernel

theorem first_seen :
    plan.keptReport? (some cache) host unit = none
      ∧ (plan.collect host unit).1.degraded = none
      ∧ host.isFileAt unit.configuration = true
      ∧ ScanPlan.Keeping.entry ⟨cache, checked, plan.freshReport host unit⟩ first.plan first.unit
          = entry := by
  decide +kernel

theorem entry_plain : PlainKey entry.key := shortKey_unit ▸ .shortKey unit.name

theorem entry_saved : cache.store.save checked checked.token entry
    = ({ checked with files := cache.store.filled checked entry }, .ok ()) := by
  have room : cache.store.Room checked entry.key checked.token := by decide +kernel
  exact CacheStore.save_of_room entry_plain (by constructor <;> decide) room

theorem saved_seen :
    cache.sourceTimes (cache.store.save checked checked.token entry).1 unit.path = [⟨5, 0⟩]
      ∧ entry.fits = true ∧ entry.fingerprint = plan.fingerprint := by
  rw [entry_saved]
  decide +kernel

theorem first_kept : plan.keeping? (some cache) host unit
    = some ⟨cache, checked, plan.freshReport host unit⟩ := by
  obtain ⟨missed, whole, present, _⟩ := first_seen
  have asked : plan.freshHost host unit = checked := by
    rw [ScanPlan.freshHost_readOnly rfl, ScanPlan.collect_of_file present]
    rfl
  rw [ScanPlan.keeping?_of_whole missed whole, asked]

theorem first_after : first.after = (cache.store.save checked checked.token entry).1 := by
  have after := @Visit.after_kept first _ first_kept
  rw [first_seen.2.2.2] at after
  exact after

theorem first_saved : CacheStore.Saved cache.store checked entry first.after := by
  rw [first_after]
  rcases CacheStore.save_spec entry_plain (Prod.eta _).symm with ⟨_, saved⟩ | ⟨⟨_, failed⟩, _⟩
  · exact saved
  · rw [entry_saved] at failed
    cases failed

theorem loaded : cache.store.load first.after (shortKey unit.name) = some entry := by
  rw [shortKey_unit]
  exact first_saved.load_self entry_plain saved_seen.2.1

theorem older : ∀ time ∈ cache.sourceTimes first.after unit.path,
    time.isAfter entry.savedAt = false := by
  rw [first_after, saved_seen.1]
  decide

theorem second_served : second.report.fromCache = true := by
  have served : plan.keptReport? (some cache) first.after unit
      = some { entry.report with fromCache := true } :=
    @ScanPlan.keptReport?_of_load plan first.after unit cache entry rfl rfl loaded
      (Cache.isFresh_iff.mpr ⟨saved_seen.2.2, older⟩)
  rw [Visit.report, show second.plan.scan second.cache second.before second.unit
    = plan.scan (some cache) first.after unit from rfl, ScanPlan.scan_served served]

theorem proper {visit : Visit} (planned : visit.plan = plan) (cached : visit.cache = some cache) :
    visit.Proper cache.store := by
  have idle : visit.plan.runner = runner := by rw [planned]; rfl
  constructor
  case storeShared =>
      intro other found
      obtain rfl := Option.some.inj (cached.symm.trans found)
      rfl
  case storeOwned => rw [idle]; exact fun _ _ _ => rfl

theorem host_content {place : Location} {content : ByteArray}
    (found : host.files.fileAt place = some content) : content = "{}".toUTF8 := by
  rw [FileTree.fileAt] at found
  split at found
  · rename_i other time standing
    obtain rfl := Option.some.inj found
    rw [ FileTree.entry?] at standing
    split at standing
    · cases standing
    · obtain ⟨listed, first, same⟩ := Option.map_eq_some_iff.mp standing
      have member := List.mem_of_find?_eq_some first
      rcases List.mem_cons.mp member with rfl | member
      · cases same
      · obtain rfl := List.mem_singleton.mp member
        exact (Entry.file.inj same).1.symm
  · cases found

theorem host_empty (store : CacheStore) (key : String) : store.kept? host key = none := by
  have nothing : (Json.parseText? "{}").bind CacheEntry.ofJson? = none := by decide +kernel
  rw [CacheStore.kept?]
  cases found : host.files.fileAt (store.place host.here key) with
  | none => rfl
  | some content =>
      rw [host_content found, Option.bind_some, CacheStore.decoded?,
        CacheStore.fromUTF8?_toUTF8, Option.bind_eq_bind, Option.bind_some, nothing]
      rfl

theorem history : History cache.store [first] first.after :=
  .scan first (.start (host_empty cache.store)) (proper rfl rfl)

end Revisit

end MonorepoCheck
