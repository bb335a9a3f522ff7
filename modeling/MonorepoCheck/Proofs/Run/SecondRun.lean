import MonorepoCheck.Proofs.Cache.Room
import MonorepoCheck.Proofs.Run.Scans
import MonorepoCheck.Proofs.Scan.Again

/-!
Running twice. If nothing that a run looks at has changed since an uncancelled run, a second one asks
only the checkers that could not do their work, and reports the same.
-/
namespace MonorepoCheck.Run

section General

variable {settings : Settings} {options : RunOptions} {runner : Runner} {host done : Host}
  {outcome : RunOutcome}

/-- The store of the reports on a workspace. -/
def storeOf (settings : Settings) (host : Host) (root : Path) : CacheStore :=
  .ofWorkspace (settings.cache.resolvedDirectory host.temporary) root

/-- The scans of a run that was not cancelled. -/
def visits (settings : Settings) (options : RunOptions) (runner : Runner) (host : Host)
    (outcome : RunOutcome) : List Visit :=
  (plan settings options runner outcome.root).visits (cache? settings host outcome.root) host
    outcome.schedule.order

/-- A run that was not cancelled and wrote every report that it tried to keep. Keys tell its units
apart. -/
structure Settled (settings : Settings) (options : RunOptions) (runner : Runner) (host : Host)
    (outcome : RunOutcome) (done : Host) : Prop where
  ran : scan settings options runner host = .ok (outcome, done)
  uncancelled : outcome.cancelled = false
  steady : ∀ visit ∈ visits settings options runner host outcome,
    visit.Steady (storeOf settings host outcome.root)
  distinct : ∀ unit ∈ outcome.schedule.order, ∀ other ∈ outcome.schedule.order,
    shortKey unit.name = shortKey other.name → unit = other

/-- The machine `later` shows a run what it showed the run before. -/
structure Unchanged (settings : Settings) (options : RunOptions) (runner : Runner) (host : Host)
    (outcome : RunOutcome) (done later : Host) : Prop where
  files : SameFiles done later
  temporary : later.temporary = host.temporary
  workspace : Workspace.inDirectory later options.root = Workspace.inDirectory host options.root
  units : (Workspace.mk outcome.root).units later settings
    = (Workspace.mk outcome.root).units host settings
  seen : ∀ visit ∈ visits settings options runner host outcome,
    visit.Unchanged (.ofSettings (storeOf settings host outcome.root) settings) later

theorem cache?_enabled (enabled : settings.cache.enabled = true) (host : Host) (root : Path) :
    cache? settings host root = some (.ofSettings (storeOf settings host root) settings) := by
  rw [cache?, if_pos enabled]
  rfl

/-- After a settled run, each of its scans has left its report or found the checker unable to work. -/
theorem settled_leaves {cache : Cache}
    (settled : Settled settings options runner host outcome done)
    (reachable : ∀ unit ∈ outcome.schedule.order,
      (storeOf settings host outcome.root).Reachable host (shortKey unit.name))
    (cached : cache? settings host outcome.root = some cache)
    (store : cache.store = storeOf settings host outcome.root)
    (readOnly : (plan settings options runner outcome.root).modifiesSources = false)
    (answers : ∀ unit ∈ outcome.schedule.order,
      ∃ reply, (plan settings options runner outcome.root).Answers unit reply) :
    ∀ visit ∈ visits settings options runner host outcome,
      visit.Leaves cache.store done := by
  obtain ⟨ran, uncancelled, steady, distinct⟩ := settled
  obtain ⟨_, _, scheduled, progress, scanned, made⟩ := scan_ok ran
  obtain ⟨first, scans⟩ := scanAll_scans settings options runner host outcome.root outcome.schedule
  have running : progress.cancelled = false := by
    rw [made] at uncancelled
    exact uncancelled
  rw [scanned] at scans
  -- the run was not cancelled, so its scans are those of the whole schedule
  obtain rfl := scans.whole running
  rw [scheduled] at distinct
  have keys := scheduleOf_distinct distinct
  rw [← scheduled] at keys
  have left : done = (plan settings options runner outcome.root).afterVisits (some cache) host
      outcome.schedule.order := by
    rw [← cached]
    exact scans.left
  rw [visits, cached] at steady ⊢
  intro visit member
  rw [left]
  exact ScanPlan.visits_leave readOnly (store ▸ steady) answers keys (store ▸ reachable) member

/-- What a run did that repeats the run of `visits`. -/
structure Repeated (visits : List Visit) (plan : ScanPlan) (outcome : RunOutcome) (later : Host)
    (again : RunOutcome) (after : Host) : Prop where
  root : again.root = outcome.root
  schedule : again.schedule = outcome.schedule
  files : SameFiles later after
  /-- No commands but checkers were run, and only those that had not been able to do their work. -/
  asked : ∃ asked : List BuildUnit,
    after.history = later.history ++ asked.map plan.checkerInvocation
      ∧ asked.Sublist outcome.schedule.order
      ∧ ∀ unit ∈ asked, ∃ visit ∈ visits, visit.unit = unit ∧ visit.Degraded
  report : again.cancelled = false → again.processed = outcome.processed
    ∧ again.report.withoutOrigins = outcome.report.withoutOrigins

/-- The reports of two uncancelled runs over one schedule are the same if those on the units are. -/
theorem outcomeOf_report (root : Path) (schedule : Schedule) {progress other : Progress}
    {reports others : List UnitReport} (made : progress.report = .ofUnits reports)
    (otherMade : other.report = .ofUnits others)
    (same : others.map UnitReport.withoutOrigin = reports.map UnitReport.withoutOrigin)
    (running : progress.cancelled = false) (otherRunning : other.cancelled = false) :
    (outcomeOf root schedule other).report.withoutOrigins
      = (outcomeOf root schedule progress).report.withoutOrigins := by
  simp only [outcomeOf, notes, running, otherRunning, Bool.false_eq_true, if_false,
    RunReport.addNotes_withoutOrigins, made, otherMade, RunReport.ofUnits,
    RunReport.foldl_merge_withoutOrigins, same]

/-- If nothing that a run looks at has changed since a settled run, a second one has an outcome. It
asks only the checkers that could not do their work, and reports the same, provided that no entry
stood where its path could not reach it as the first run began. -/
theorem second_run_repeats {second : Runner} {later : Host}
    (enabled : settings.cache.enabled = true) (reuse : settings.cache.reuse = true)
    (readOnly : options.level = .none ∨ options.dryRun = true)
    (settled : Settled settings options runner host outcome done)
    (reachable : ∀ unit ∈ outcome.schedule.order,
      (storeOf settings host outcome.root).Reachable host (shortKey unit.name))
    (answers : ∀ unit ∈ outcome.schedule.order, ∃ reply,
      (plan settings options runner outcome.root).Answers unit reply
        ∧ (plan settings options second outcome.root).Answers unit reply)
    (reads : ReadsOnly second)
    (unchanged : Unchanged settings options runner host outcome done later)
    (running : later.cancelled = false) :
    ∃ again after, scan settings options second later = .ok (again, after)
      ∧ Repeated (visits settings options runner host outcome)
          (plan settings options second outcome.root) outcome later again after := by
  have idle : (plan settings options runner outcome.root).modifiesSources = false := by
    rcases readOnly with level | dryRun
    · simp [ScanPlan.modifiesSources, plan, level]
    · simp [ScanPlan.modifiesSources, plan, dryRun]
  have cached := cache?_enabled enabled host outcome.root
  have cachedAgain : cache? settings later outcome.root
      = some (.ofSettings (storeOf settings host outcome.root) settings) := by
    rw [← cached, cache?, cache?, unchanged.temporary]
  have leaves := settled_leaves settled reachable cached rfl idle
    fun unit member => (answers unit member).imp fun _ both => both.1
  obtain ⟨found, present, scheduled, progress, scanned, made⟩ := scan_ok settled.ran
  obtain ⟨_, scans⟩ := scanAll_scans settings options runner host outcome.root outcome.schedule
  obtain ⟨first, again⟩ := scanAll_scans settings options second later outcome.root outcome.schedule
  rw [scanned] at scans
  have uncancelled : progress.cancelled = false := by
    have same := settled.uncancelled
    rw [made] at same
    exact same
  obtain rfl := scans.whole uncancelled
  -- the second run may be cancelled on its way, so it repeats the first scans only
  have known : ∀ visit ∈ (plan settings options runner outcome.root).visits
      (cache? settings host outcome.root) host first,
        visit ∈ visits settings options runner host outcome := by
    obtain ⟨rest, order⟩ := again.inOrder
    intro visit member
    rw [visits, ← order, ScanPlan.visits_append]
    exact List.mem_append_left _ member
  rw [cached] at known
  have repeats := ScanPlan.visits_repeat second reuse idle reads
    (fun unit member => answers unit (again.inOrder.subset member))
    (fun visit member => leaves visit (known visit member))
    (fun visit member => unchanged.seen visit (known visit member)) unchanged.files
  have sameSchedule : scheduleOf settings later outcome.root = outcome.schedule := by
    rw [scheduled, scheduleOf, scheduleOf, unchanged.units]
  rcases scannedAgain : scanAll settings options second later outcome.root outcome.schedule with
    ⟨progress', after⟩
  rw [scannedAgain, cachedAgain] at again
  -- it is not cancelled before it begins, so there is a scan to tell of, hence an outcome
  have began : progress'.processed ≠ 0 := by
    rw [again.processed]
    have nonempty := again.began running (scheduled ▸ scheduleOf_present present)
    exact Nat.ne_of_gt (List.length_pos_iff.mpr nonempty)
  refine ⟨outcomeOf outcome.root outcome.schedule progress', after, ?_, ?_⟩
  · rw [scan_of_workspace (unchanged.workspace.trans found) (by rw [sameSchedule, scannedAgain]),
      unchanged.units, if_neg fun none' => present (List.isEmpty_iff.mp none'), if_neg,
      sameSchedule]
    simp [began]
  · obtain rfl : after = _ := again.left
    constructor
    case root => rfl
    case schedule => rfl
    case files => exact repeats.files
    case asked =>
        obtain ⟨asked, history, inOrder, unable⟩ := repeats.asked
        rw [ScanPlan.visits_units] at inOrder
        refine ⟨asked, history, inOrder.trans again.inOrder.sublist, ?_⟩
        intro unit member
        obtain ⟨visit, old, same, degraded⟩ := unable unit member
        exact ⟨visit, known visit old, same, degraded⟩
    case report =>
        intro uncancelled'
        obtain rfl := again.whole uncancelled'
        constructor
        · rw [made]
          exact again.processed.trans scans.processed.symm
        · rw [cached] at scans
          have same := outcomeOf_report outcome.root outcome.schedule scans.report again.report
            repeats.reports uncancelled uncancelled'
          rw [← made] at same
          exact same

end General

/-! A workspace of two units. Its reports are kept below `/m/..`, although there is no `/m` before a
report is kept. Where `stale` holds, an entry of the first unit stands where that path will lead. -/
namespace Detour

def settings : Settings :=
  { Settings.default with
    configurationFile := "t.json"
    fallbackDirectories := ["p"]
    cache := ⟨true, true, some ⟨"/m/../c"⟩⟩ }

def options : RunOptions := { root := ⟨"/w"⟩ }

def member : BuildUnit := ⟨⟨"/w/p/a"⟩, "p/a", ⟨"/w/p/a/t.json"⟩, []⟩

def rootUnit : BuildUnit := ⟨⟨"/w"⟩, ".", ⟨"/w/t.json"⟩, []⟩

/-- The checker of the first unit does not come to an end, and the other one finds something. -/
def reply (directory : Path) : Outcome :=
  if directory = member.path then .timedOut 1000
  else .completed false (some 2) "a.ts(1,1): error TS1: wrong"

def runner : Runner := fun invocation host => (reply invocation.directory, host)

def plan : ScanPlan := Run.plan settings options runner ⟨"/w"⟩

def store : CacheStore := ⟨⟨"/m/../c/d1bb8ca354673cd575d31d952490058c"⟩⟩

def cache : Cache := .ofSettings store settings

/-- The report of a time when the checker of the first unit came to an end. -/
def staleReport : UnitReport :=
  .ofDiagnostics "p/a" [⟨"p/a/a.ts", 1, 1, "TS1", "wrong", none, none⟩]

def staleEntry : CacheEntry :=
  ⟨"e78d3757cca01af6d93a2a5c07cad559", "p/a", "codes=;files=;fix=none;dry_run=false", staleReport,
    ⟨7, 0⟩⟩

def stalePlace : Location :=
  ["c", "d1bb8ca354673cd575d31d952490058c", "e78d3757cca01af6d93a2a5c07cad559.json"]

def host (stale : Bool) : Host where
  files := ⟨[(["w"], .directory), (["w", "p"], .directory), (["w", "p", "a"], .directory),
      (["w", "p", "a", "t.json"], .file "{}".toUTF8 ⟨5, 0⟩),
      (["w", "t.json"], .file "{}".toUTF8 ⟨5, 0⟩)]
    ++ if stale then
        [(["c"], .directory), (["c", "d1bb8ca354673cd575d31d952490058c"], .directory),
         (stalePlace, .file staleEntry.toJson.prettyText.toUTF8 ⟨7, 0⟩)]
      else []⟩
  now := ⟨10, 0⟩
  workers := 2

/-- The machine after both checkers. -/
def checked (stale : Bool) : Host :=
  { host stale with
    history := [plan.checkerInvocation member, plan.checkerInvocation rootUnit] }

/-- What is found in the second unit. -/
def finding : Diagnostic := ⟨"a.ts", 1, 1, "TS1", "wrong", none, some (hintsFor "TS1")⟩

/-- The entry that the second unit is kept as. -/
def entry : CacheEntry :=
  ⟨"cdb4ee2aea69cc6a83331bbe96dc2caa", ".", "codes=;files=;fix=none;dry_run=false",
    .ofDiagnostics "." [finding], ⟨10, 0⟩⟩

/-- The machine after the run. -/
def done (stale : Bool) : Host := (store.save (checked stale) (checked stale).token entry).1

def first (stale : Bool) : Visit := ⟨plan, some cache, member, host stale⟩

def second (stale : Bool) : Visit :=
  ⟨plan, some cache, rootUnit,
    { host stale with history := [plan.checkerInvocation member] }⟩

variable (stale : Bool)

/-- What a run sees as it begins, and how it goes about its units. -/
theorem host_seen :
    storeOf settings (host stale) ⟨"/w"⟩ = store
      ∧ (Workspace.inDirectory (host stale) ⟨"/w"⟩).toOption = some ⟨⟨"/w"⟩⟩
      ∧ (Workspace.mk ⟨"/w"⟩).units (host stale) settings = [member, rootUnit]
      ∧ (host stale).isFileAt member.configuration = true
      ∧ cache.sourceTimes (host stale) member.path = [⟨5, 0⟩]
      ∧ (DependencyGraph.ofUnits [member, rootUnit]).schedule.order = [member, rootUnit]
      ∧ shortKey member.name = staleEntry.key ∧ shortKey rootUnit.name = entry.key
      ∧ store.place (checked stale).here staleEntry.key = stalePlace
      ∧ staleEntry.fingerprint = plan.fingerprint := by
  revert stale
  decide +kernel

theorem schedule_order :
    (DependencyGraph.ofUnits [member, rootUnit]).schedule.order = [member, rootUnit] := by
  obtain ⟨_, _, _, _, _, order, _⟩ := host_seen true
  exact order

theorem shortKey_member : shortKey member.name = staleEntry.key := by
  obtain ⟨_, _, _, _, _, _, key, _⟩ := host_seen true
  exact key

theorem shortKey_root : shortKey rootUnit.name = entry.key := by
  obtain ⟨_, _, _, _, _, _, _, key, _⟩ := host_seen true
  exact key

theorem distinct_keys : ∀ unit ∈ [member, rootUnit], ∀ other ∈ [member, rootUnit],
    shortKey unit.name = shortKey other.name → unit = other := by
  have differ : staleEntry.key ≠ entry.key := by decide
  simp only [List.mem_cons, List.not_mem_nil, or_false]
  rintro unit (rfl | rfl) other (rfl | rfl) same
  · rfl
  · rw [shortKey_member, shortKey_root] at same
    exact absurd same differ
  · rw [shortKey_member, shortKey_root] at same
    exact absurd same.symm differ
  · rfl

/-- The path of the store leads nowhere, and the first checker does not come to an end. Nor can an
entry of the second unit be found, but its checker does its work. -/
theorem visits_seen :
    (plan.keptReport? (some cache) (host stale) member = none
        ∧ (plan.collect (host stale) member).1 = ⟨[], some "checker timed out after 1s"⟩)
      ∧ plan.keptReport? (some cache) (second stale).before rootUnit = none
      ∧ (plan.collect (second stale).before rootUnit).1 = ⟨[finding], none⟩
      ∧ (second stale).before.isFileAt rootUnit.configuration = true
      ∧ ScanPlan.Keeping.entry ⟨cache, checked stale,
            plan.freshReport (second stale).before rootUnit⟩ (second stale).plan (second stale).unit
          = entry := by
  revert stale
  decide +kernel

theorem entry_plain : PlainKey entry.key := shortKey_root ▸ .shortKey rootUnit.name

/-- The report of the second unit is written, which makes `/m`. -/
theorem entry_saved : store.save (checked stale) (checked stale).token entry
    = ({ checked stale with files := store.filled (checked stale) entry }, .ok ()) := by
  have room : store.Room (checked stale) entry.key (checked stale).token := by
    revert stale
    decide +kernel
  exact CacheStore.save_of_room entry_plain (by constructor <;> cases stale <;> decide) room

/-- What the next run sees. -/
theorem done_seen :
    (store.save (checked stale) (checked stale).token entry).2.toOption = some ()
      ∧ (Workspace.inDirectory (done stale) ⟨"/w"⟩).toOption = some ⟨⟨"/w"⟩⟩
      ∧ (Workspace.mk ⟨"/w"⟩).units (done stale) settings = [member, rootUnit]
      ∧ (done stale).isFileAt member.configuration = true
      ∧ cache.sourceTimes (done stale) member.path = [⟨5, 0⟩]
      ∧ cache.sourceTimes (done stale) rootUnit.path = [⟨5, 0⟩, ⟨5, 0⟩]
      ∧ ((done stale).files.locate [] (store.entryPath staleEntry.key)).toOption
          = some stalePlace := by
  rw [done, entry_saved]
  revert stale
  decide +kernel

theorem first_degraded : (first stale).Degraded := by
  obtain ⟨missed, collected⟩ := (visits_seen stale).1
  refine ⟨missed, ?_⟩
  rw [show (first stale).plan.collect (first stale).before (first stale).unit
    = plan.collect (host stale) member from rfl, collected]
  exact Option.some_ne_none _

theorem second_working : ¬ (second stale).Degraded := by
  intro degraded
  apply degraded.2
  rw [show (second stale).plan.collect (second stale).before (second stale).unit
    = plan.collect (second stale).before rootUnit from rfl, (visits_seen stale).2.2.1]

theorem first_unkept : plan.keeping? (some cache) (host stale) member = none := by
  apply ScanPlan.keeping?_of_degraded
  rw [(visits_seen stale).1.2]
  exact Option.some_ne_none _

theorem first_after : (first stale).after = (second stale).before := by
  have after := @Visit.after_missed (first stale) (visits_seen stale).1.1 (first_unkept stale)
  have present : (first stale).before.isFileAt (first stale).unit.configuration = true :=
    (host_seen stale).2.2.2.1
  rw [ScanPlan.freshHost_readOnly rfl, ScanPlan.collect_of_file present] at after
  exact after

theorem second_kept : plan.keeping? (some cache) (second stale).before rootUnit
    = some ⟨cache, checked stale, plan.freshReport (second stale).before rootUnit⟩ := by
  obtain ⟨missed, collected, present, _⟩ := (visits_seen stale).2
  have asked : plan.freshHost (second stale).before rootUnit = checked stale := by
    rw [ScanPlan.freshHost_readOnly rfl, ScanPlan.collect_of_file present]
    rfl
  rw [ScanPlan.keeping?_of_whole missed (by rw [collected]), asked]

theorem second_after : (second stale).after = done stale := by
  have after := @Visit.after_kept (second stale) _ (second_kept stale)
  rw [(visits_seen stale).2.2.2.2] at after
  exact after

theorem second_written : (second stale).written? = some entry := by
  have written := @Visit.written?_of_kept (second stale) _ (second_kept stale)
  rw [(visits_seen stale).2.2.2.2] at written
  exact written (FileTree.ok_of_toOption (done_seen stale).1)

theorem saved : CacheStore.Saved store (checked stale) entry (done stale) := by
  rw [done]
  rcases CacheStore.save_spec entry_plain (Prod.eta _).symm with ⟨_, saved⟩ | ⟨⟨_, failed⟩, _⟩
  · exact saved
  · rw [FileTree.ok_of_toOption (done_seen stale).1] at failed
    cases failed

/-- The outcome of the run. -/
def outcome (stale : Bool) : RunOutcome :=
  outcomeOf ⟨"/w"⟩ (scheduleOf settings (host stale) ⟨"/w"⟩)
    ⟨.ofUnits [(first stale).report, (second stale).report], 2, false⟩

theorem scheduled (now : Host)
    (units : (Workspace.mk ⟨"/w"⟩).units now settings = [member, rootUnit]) :
    (scheduleOf settings now ⟨"/w"⟩).order = [member, rootUnit] := by
  rw [scheduleOf, units]
  exact schedule_order

theorem plan_eq : Run.plan settings options runner ⟨"/w"⟩ = plan := rfl

theorem visits_eq : plan.visits (some cache) (host stale) [member, rootUnit]
    = [first stale, second stale] := by
  show [first stale, ⟨plan, some cache, rootUnit, (first stale).after⟩] = _
  rw [first_after]
  rfl

theorem afterVisits_eq : plan.afterVisits (some cache) (host stale) [member, rootUnit]
    = done stale := by
  rw [ScanPlan.afterVisits_cons, ScanPlan.afterVisits_cons, ScanPlan.afterVisits_nil,
    show (Visit.mk plan (some cache) member (host stale)).after = (second stale).before from
      first_after stale]
  exact second_after stale

theorem host_cache : cache? settings (host stale) ⟨"/w"⟩ = some cache := by
  rw [cache?_enabled rfl, (host_seen stale).1]
  rfl

theorem host_visits : visits settings options runner (host stale) (outcome stale)
    = [first stale, second stale] := by
  rw [visits, show (outcome stale).root = ⟨"/w"⟩ from rfl, host_cache, plan_eq,
    show (outcome stale).schedule.order = [member, rootUnit] from
      scheduled _ (host_seen stale).2.2.1, visits_eq]

theorem ran : scan settings options runner (host stale) = .ok (outcome stale, done stale) := by
  obtain ⟨_, found, units, _⟩ := host_seen stale
  have few : [rootUnit].length < settings.execution.batchSize (host stale).workers := by
    show 1 < settings.execution.batchSize 2
    decide
  have went := scan_in_one_batch settings options runner (FileTree.ok_of_toOption found)
    (by rw [units]; exact List.cons_ne_nil _ _) (scheduled _ units) few rfl
  rw [host_cache, plan_eq, visits_eq, afterVisits_eq] at went
  exact went

theorem steady_of_idle {visit : Visit} (planned : visit.plan = plan)
    (cached : visit.cache = some cache)
    (writes : ∀ keeping, visit.plan.keeping? visit.cache visit.before visit.unit = some keeping →
      ∃ entry, visit.written? = some entry) : visit.Steady store := by
  have idle : visit.plan.runner = runner := by rw [planned]; rfl
  constructor
  case toProper =>
      constructor
      case storeShared =>
          intro other found
          obtain rfl := Option.some.inj (cached.symm.trans found)
          rfl
      case storeOwned => rw [idle]; exact fun _ _ _ => rfl
  case writes => exact writes
  case storeOpen => rw [idle]; exact fun _ _ _ _ loaded => loaded

theorem first_counts : (first stale).report.counts = ⟨0, 0, 0⟩ := by
  obtain ⟨missed, collected⟩ := (visits_seen stale).1
  have scanned : (first stale).report = plan.freshReport (host stale) member :=
    @Visit.report_missed (first stale) missed
  rw [scanned, ScanPlan.freshReport_readOnly rfl, collected]
  rfl

theorem second_counts : (second stale).report.counts = ⟨1, 0, 1⟩ := by
  obtain ⟨missed, collected, _⟩ := (visits_seen stale).2
  have scanned : (second stale).report = plan.freshReport (second stale).before rootUnit :=
    @Visit.report_missed (second stale) missed
  rw [scanned, ScanPlan.freshReport_readOnly rfl, collected]
  rfl

theorem settled : Settled settings options runner (host stale) (outcome stale) (done stale) := by
  have located : storeOf settings (host stale) (outcome stale).root = store := (host_seen stale).1
  have order : (outcome stale).schedule.order = [member, rootUnit] :=
    scheduled _ (host_seen stale).2.2.1
  constructor
  case ran => exact ran stale
  case uncancelled => rfl
  case steady =>
      rw [host_visits, located]
      intro visit listed
      rcases List.mem_cons.mp listed with rfl | listed
      · apply steady_of_idle rfl rfl
        intro keeping kept
        rw [show (first stale).plan.keeping? (first stale).cache (first stale).before
          (first stale).unit = none from first_unkept stale] at kept
        cases kept
      · obtain rfl := List.mem_singleton.mp listed
        exact steady_of_idle rfl rfl fun _ _ => ⟨entry, second_written stale⟩
  case distinct =>
      rw [order]
      exact distinct_keys

theorem done_host : done stale = { checked stale with files := (done stale).files } :=
  (saved stale).only

theorem unchanged : Unchanged settings options runner (host stale) (outcome stale) (done stale)
    (done stale) := by
  obtain ⟨_, found, units, present, times, rootTimes, _⟩ := done_seen stale
  obtain ⟨located, found', units', present', times', _⟩ := host_seen stale
  constructor
  case files => exact .refl _
  case temporary => rw [done_host]; rfl
  case workspace => exact (FileTree.ok_of_toOption found).trans (FileTree.ok_of_toOption found').symm
  case units => exact units.trans units'.symm
  case seen =>
      rw [host_visits, show storeOf settings (host stale) (outcome stale).root = store from located]
      intro visit listed
      rcases List.mem_cons.mp listed with rfl | listed
      · constructor
        case older => exact fun working => absurd (first_degraded stale) working
        case configuration => exact fun _ => present.trans present'.symm
        case sources => exact fun _ => times.trans times'.symm
      · obtain rfl := List.mem_singleton.mp listed
        constructor
        case older =>
            intro _ found' loaded time seen
            have kept := (saved stale).load_self entry_plain (by decide)
            rw [← shortKey_root] at kept
            obtain rfl := Option.some.inj (kept.symm.trans loaded)
            rw [show (Cache.ofSettings store settings).sourceTimes (done stale)
              (second stale).unit.path = [⟨5, 0⟩, ⟨5, 0⟩] from rootTimes] at seen
            obtain rfl : time = ⟨5, 0⟩ := by simpa using seen
            rfl
        case configuration => exact fun degraded => absurd degraded (second_working stale)
        case sources => exact fun degraded => absurd degraded (second_working stale)

theorem answers (unit : BuildUnit) :
    ∃ answer, plan.Answers unit answer ∧ plan.Answers unit answer := by
  refine ⟨reply unit.path, ?_⟩
  rw [and_self]
  refine ⟨fun _ => rfl, ?_⟩
  rw [reply]
  split <;> decide

theorem reads : ReadsOnly runner := ⟨fun _ _ => rfl, fun _ _ => rfl, fun _ _ => rfl⟩

theorem reachable : ∀ unit ∈ (outcome false).schedule.order,
    store.Reachable (host false) (shortKey unit.name) := by
  rw [show (outcome false).schedule.order = [member, rootUnit] from
    scheduled _ (host_seen false).2.2.1]
  have none' : ∀ unit ∈ [member, rootUnit],
      store.load (host false) (shortKey unit.name) = none
        ∧ store.kept? (host false) (shortKey unit.name) = none := by
    decide +kernel
  exact fun unit member => (none' unit member).1.trans (none' unit member).2.symm

theorem stale_plain : PlainKey staleEntry.key := shortKey_member ▸ .shortKey member.name

/-- Once there is `/m`, the entry of the first unit can be loaded. -/
theorem stale_loaded : store.load (done true) staleEntry.key = some staleEntry := by
  obtain ⟨_, _, _, _, _, _, leads⟩ := done_seen true
  have here : (done true).here = [] := by
    rw [done_host]
    rfl
  obtain ⟨_, _, _, _, _, _, _, _, place, _⟩ := host_seen true
  have standing : (checked true).files.fileAt stalePlace
      = some staleEntry.toJson.prettyText.toUTF8 := by
    simp [checked, host, FileTree.fileAt, FileTree.entry?, stalePlace]
  rw [CacheStore.load_located stale_plain (here ▸ FileTree.ok_of_toOption leads),
    (saved true).kept?_other stale_plain (by decide), CacheStore.kept?, place, standing,
    Option.bind_some, CacheStore.decoded?_saved]
  exact if_pos (by decide)

theorem stale_served : plan.keptReport? (some cache) (done true) member
    = some { staleReport with fromCache := true } := by
  obtain ⟨_, _, _, _, times, _⟩ := done_seen true
  obtain ⟨_, _, _, _, _, _, _, _, _, sameOptions⟩ := host_seen true
  have loaded : store.load (done true) (shortKey member.name) = some staleEntry := by
    rw [shortKey_member]
    exact stale_loaded
  have older : ∀ time ∈ cache.sourceTimes (done true) member.path,
      time.isAfter staleEntry.savedAt = false := by
    rw [times]
    decide
  exact @ScanPlan.keptReport?_of_load plan (done true) member cache staleEntry rfl rfl loaded
    (Cache.isFresh_iff.mpr ⟨sameOptions, older⟩)

theorem ran_again : scan settings options runner (done stale)
    = .ok (outcomeOf ⟨"/w"⟩ (scheduleOf settings (done stale) ⟨"/w"⟩)
          ⟨.ofUnits ((plan.visits (some cache) (done stale) [member, rootUnit]).map Visit.report), 2,
            false⟩,
        plan.afterVisits (some cache) (done stale) [member, rootUnit]) := by
  obtain ⟨_, found, units, _⟩ := done_seen stale
  have few : [rootUnit].length < settings.execution.batchSize (done stale).workers := by
    rw [done_host]
    show 1 < settings.execution.batchSize 2
    decide
  have cached : cache? settings (done stale) ⟨"/w"⟩ = some cache := by
    rw [← host_cache stale, cache?, cache?, done_host]
    rfl
  have went := scan_in_one_batch settings options runner (FileTree.ok_of_toOption found)
    (by rw [units]; exact List.cons_ne_nil _ _) (scheduled _ units) few (by rw [done_host]; rfl)
  rw [cached] at went
  exact went

/-- What the second run counts in the first unit, and what the first one did. -/
theorem counts_differ :
    ((plan.visits (some cache) (done true) [member, rootUnit]).map Visit.report).map
        UnitReport.counts
      ≠ [(first true).report, (second true).report].map UnitReport.counts := by
  have again : (Visit.mk plan (some cache) member (done true)).report.counts = ⟨1, 0, 1⟩ := by
    rw [Visit.report, ScanPlan.scan_served stale_served]
    rfl
  intro same
  have heads : (Visit.mk plan (some cache) member (done true)).report.counts
      = (first true).report.counts := (List.cons.inj same).1
  rw [again, first_counts] at heads
  exact absurd heads (by decide)

end Detour

theorem second_run_repeats_two_units : ∃ again after,
    scan Detour.settings Detour.options Detour.runner (Detour.done false) = .ok (again, after)
      ∧ Repeated (visits Detour.settings Detour.options Detour.runner (Detour.host false)
          (Detour.outcome false)) Detour.plan (Detour.outcome false) (Detour.done false) again after :=
  second_run_repeats rfl rfl (.inl rfl) (Detour.settled false)
    (by
      rw [show storeOf Detour.settings (Detour.host false) (Detour.outcome false).root = Detour.store
        from (Detour.host_seen false).1]
      exact Detour.reachable)
    (fun unit _ => Detour.answers unit) Detour.reads (Detour.unchanged false)
    (by rw [Detour.done_host]; rfl)

/-- Without the proviso the second run may report otherwise. A degraded unit has an entry that no
path reaches before the run has kept another report. -/
theorem second_run_finds_entry : ¬ ∀ (settings : Settings) (options : RunOptions)
    (runner second : Runner) (host done later : Host) (outcome : RunOutcome),
    settings.cache.enabled = true → settings.cache.reuse = true →
    options.level = .none ∨ options.dryRun = true →
    Settled settings options runner host outcome done →
    (∀ unit ∈ outcome.schedule.order, ∃ reply,
      (plan settings options runner outcome.root).Answers unit reply
        ∧ (plan settings options second outcome.root).Answers unit reply) →
    ReadsOnly second → Unchanged settings options runner host outcome done later →
    later.cancelled = false →
    ∃ again after, scan settings options second later = .ok (again, after)
      ∧ Repeated (visits settings options runner host outcome)
          (plan settings options second outcome.root) outcome later again after := by
  intro claim
  obtain ⟨again, after, ran, repeated⟩ := claim Detour.settings Detour.options Detour.runner
    Detour.runner (Detour.host true) (Detour.done true) (Detour.done true) (Detour.outcome true) rfl
    rfl (.inl rfl) (Detour.settled true) (fun unit _ => Detour.answers unit) Detour.reads
    (Detour.unchanged true) (by rw [Detour.done_host]; rfl)
  rw [Detour.ran_again] at ran
  obtain ⟨rfl, rfl⟩ := Prod.mk.inj (Except.ok.inj ran)
  have same := congrArg RunReport.unitCounts (repeated.report rfl).2
  simp only [RunReport.unitCounts_withoutOrigins, Detour.outcome, unitCounts_outcomeOf,
    RunReport.unitCounts_ofUnits] at same
  exact Detour.counts_differ same

end MonorepoCheck.Run
