import MonorepoCheck.Proofs.Run.SecondRun
import MonorepoCheck.Proofs.Scan.Accounting

/-!
The books of a run: its report names the units that were scanned, each once and in the order of the
schedule, adds up what was counted in them, and lists what remains. It does not matter when the run is
stopped, nor what goes on beside it, as long as the entries of the cache stay genuine.
-/
namespace MonorepoCheck

namespace Batches

variable {σ : Type} {scan : σ → BuildUnit → UnitReport × σ} {holds : σ → Prop}
  {good : BuildUnit → UnitReport → Prop}

/-- What holds as a scan begins holds for all scans of a batch, if every scan keeps it. -/
theorem scanBatch_forall₂ {units : List BuildUnit} {state : σ}
    (step : ∀ unit ∈ units, ∀ state, holds state →
      good unit (scan state unit).1 ∧ holds (scan state unit).2)
    (start : holds state) : List.Forall₂ good units (scanBatch scan state units).1 := by
  induction units generalizing state with
  | nil => exact .nil
  | cons unit rest ih =>
      obtain ⟨here, later⟩ := List.forall_mem_cons.mp step
      obtain ⟨report, next⟩ := here state start
      exact .cons report (ih later next)

end Batches

namespace Run

section General

variable {settings : Settings} {options : RunOptions} {runner : Runner} {host done : Host}
  {outcome : RunOutcome} {others : BuildUnit → Host → Host}

/-- A scan of a unit, and what else has happened to the machine by the end of it: somebody asked for
the run to stop, or another worker kept the report of its own unit. -/
def scanBeside (others : BuildUnit → Host → Host) (plan : ScanPlan) (cache : Option Cache)
    (host : Host) (unit : BuildUnit) : UnitReport × Host :=
  let (report, host) := plan.scan cache host unit
  (report, others unit host)

def scanAllAmid (others : BuildUnit → Host → Host) (settings : Settings) (options : RunOptions)
    (runner : Runner) (host : Host) (root : Path) (schedule : Schedule) : Progress × Host :=
  Batches.run (settings.execution.batchSize host.workers) Host.cancelled
    (scanBeside others (plan settings options runner root) (cache? settings host root)) host
    schedule.order

/-- The first units are scanned one after the other, and their reports are merged. -/
theorem scanAllAmid_scanned (others : BuildUnit → Host → Host) (settings : Settings)
    (options : RunOptions) (runner : Runner) (host : Host) (root : Path) (schedule : Schedule) :
    ∃ first, first <+: schedule.order
      ∧ (scanAllAmid others settings options runner host root schedule).1.report
        = .ofUnits (Batches.scanBatch (scanBeside others (plan settings options runner root)
            (cache? settings host root)) host first).1
      ∧ (scanAllAmid others settings options runner host root schedule).1.processed
        = first.length := by
  obtain ⟨first, rest, order, scanned, _⟩ := Batches.run_scanned Host.cancelled
    (scanBeside others (plan settings options runner root) (cache? settings host root))
    (if settings.execution.parallel then some (settings.execution.workers host.workers) else none)
    host schedule.order
  exact ⟨first, ⟨rest, order.symm⟩, scanned.report, scanned.processed.trans (Nat.zero_add _)⟩

/-- A run while other things happen to the machine. -/
def scanAmid (others : BuildUnit → Host → Host) (settings : Settings) (options : RunOptions)
    (runner : Runner) (host : Host) : Except Failure (RunOutcome × Host) :=
  match Workspace.inDirectory host options.root with
  | .error failure => .error failure
  | .ok workspace =>
    let schedule := scheduleOf settings host workspace.root
    let (progress, done) := scanAllAmid others settings options runner host workspace.root schedule
    if (workspace.units host settings).isEmpty then
      .error (.noUnitsFound workspace.root settings.configurationFile)
    else if progress.cancelled && progress.processed == 0 then .error .cancelled
    else .ok (outcomeOf workspace.root schedule progress, done)

/-- Where nothing else happens, that is a run. -/
theorem scanAmid_alone (settings : Settings) (options : RunOptions) (runner : Runner) (host : Host) :
    scanAmid (fun _ host => host) settings options runner host
      = scan settings options runner host := by
  have batches (root : Path) (schedule : Schedule) :
      scanAllAmid (fun _ host => host) settings options runner host root schedule
        = scanAll settings options runner host root schedule := rfl
  rw [scanAmid]
  cases found : Workspace.inDirectory host options.root with
  | error failure => simp only [scan, found, bind, Except.bind]
  | ok workspace =>
      dsimp only
      rw [scan_of_workspace found (Prod.eta _).symm, batches]

theorem schedule_outcomeOf (root : Path) (schedule : Schedule) (progress : Progress) :
    (outcomeOf root schedule progress).schedule = schedule := rfl

theorem counts_outcomeOf (root : Path) (schedule : Schedule) (progress : Progress) :
    (outcomeOf root schedule progress).report.counts = progress.report.counts :=
  (RunReport.addNotes_counts _ _).1

theorem scanAmid_ok
    (ran : scanAmid others settings options runner host = .ok (outcome, done)) :
    outcome = outcomeOf outcome.root (scheduleOf settings host outcome.root)
      (scanAllAmid others settings options runner host outcome.root
        (scheduleOf settings host outcome.root)).1 := by
  rw [scanAmid] at ran
  split at ran
  · cases ran
  · dsimp only at ran
    split at ran
    · cases ran
    · split at ran
      · cases ran
      · obtain ⟨rfl, rfl⟩ := Prod.mk.inj (Except.ok.inj ran)
        rfl

/-- The books of a run. -/
structure Accounted (settings : Settings) (options : RunOptions) (outcome : RunOutcome) : Prop where
  processed : outcome.processed ≤ outcome.schedule.order.length
  named : outcome.report.units.map UnitSummary.unit
    = (outcome.schedule.order.take outcome.processed).map BuildUnit.name
  once : (outcome.report.units.map UnitSummary.unit).Nodup
  sums : outcome.report.counts = RunReport.totals outcome.report.units
  units : ∀ summary ∈ outcome.report.units, summary.counts.Balanced
  balanced : outcome.report.counts.Balanced
  keyed : outcome.report.findings.Keyed
  /-- unless the effect of a fix was only estimated -/
  lists : settings.remedy.rescan = true ∨ options.level = .none ∨ options.dryRun = true →
    outcome.report.findings.toList.length = outcome.report.counts.remaining
      ∧ (outcome.exitStatus = 0 ↔ outcome.report.findings.toList = [])

theorem exitStatus_zero (outcome : RunOutcome) :
    outcome.exitStatus = 0 ↔ outcome.report.counts.remaining = 0 := by
  rw [RunOutcome.exitStatus, RunReport.isClean]
  by_cases clean : outcome.report.counts.remaining = 0
  · simp [clean]
  · simp [clean]

section Reports

variable {root : Path} {progress : Progress} {first : List BuildUnit} {reports : List UnitReport}
  {plan : ScanPlan}

theorem names_of_accounts (accounts : List.Forall₂ plan.Accounts first reports) :
    reports.map UnitReport.unit = first.map BuildUnit.name := by
  induction accounts with
  | nil => rfl
  | cons here _ ih => rw [List.map_cons, List.map_cons, here.named, ih]

theorem each_of_accounts (accounts : List.Forall₂ plan.Accounts first reports) :
    ∀ report ∈ reports, ∃ unit, plan.Accounts unit report := by
  induction accounts with
  | nil => exact fun _ member => nomatch member
  | cons here _ ih => exact List.forall_mem_cons.mpr ⟨⟨_, here⟩, ih⟩

/-- The books of a run over the first units of its schedule, by those of its scans. -/
theorem accounted_of_reports {schedule : Schedule} (started : first <+: schedule.order)
    (once : (schedule.order.map BuildUnit.name).Nodup)
    (report : progress.report = .ofUnits reports) (processed : progress.processed = first.length)
    (accounts : List.Forall₂ plan.Accounts first reports)
    (measures : settings.remedy.rescan = true ∨ options.level = .none ∨ options.dryRun = true →
      plan.Measures) :
    Accounted settings options (outcomeOf root schedule progress) := by
  -- the notes of a run are added at the end and touch neither counts nor findings
  obtain ⟨counts, units, findings⟩ :=
    RunReport.addNotes_counts (notes schedule progress) progress.report
  change (outcomeOf root schedule progress).report.counts = _ at counts
  change (outcomeOf root schedule progress).report.units = _ at units
  change (outcomeOf root schedule progress).report.findings = _ at findings
  have adds := RunReport.adds_ofUnits reports
  rw [← report] at adds
  have each := each_of_accounts accounts
  have named : progress.report.units.map UnitSummary.unit = first.map BuildUnit.name := by
    rw [adds.units, List.map_map]
    exact names_of_accounts accounts
  have balanced : ∀ summary ∈ progress.report.units, summary.counts.Balanced := by
    intro summary member
    rw [adds.units] at member
    obtain ⟨report, listed, rfl⟩ := List.mem_map.mp member
    obtain ⟨unit, books⟩ := each report listed
    exact books.inOrder.balanced
  constructor
  case processed =>
      show progress.processed ≤ schedule.order.length
      exact processed ▸ started.length_le
  case named =>
      show _ = (schedule.order.take progress.processed).map BuildUnit.name
      rw [units, named, processed, ← List.prefix_iff_eq_take.mp started]
  case once =>
      rw [units, named]
      exact once.sublist (started.sublist.map BuildUnit.name)
  case sums => rw [counts, adds.counts, units]
  case units => rwa [units]
  case balanced =>
      rw [counts, adds.counts]
      exact RunReport.balanced_totals balanced
  case keyed =>
      rw [findings, report]
      apply RunReport.keyed_ofUnits
      intro report listed
      obtain ⟨unit, books⟩ := each report listed
      exact books.inOrder.keyed
  case lists =>
      intro exact'
      have lists : ∀ report ∈ reports, report.Lists := by
        intro report listed
        obtain ⟨unit, books⟩ := each report listed
        exact books.lists (measures exact')
      rw [exitStatus_zero, counts, findings, ← adds.lists lists, List.length_eq_zero_iff]
      exact ⟨rfl, Iff.rfl⟩

end Reports

theorem cache?_store {root : Path} {cache : Cache} (cached : cache? settings host root = some cache) :
    cache.store = storeOf settings host root := by
  rw [cache?] at cached
  split at cached
  · obtain rfl := Option.some.inj cached
    rfl
  · cases cached

/-- One scan of a run, with whatever happens beside it. -/
theorem scanBeside_accounts {root : Path} {units : Set String} {unit : BuildUnit} {state : Host}
    (genuine : (storeOf settings host root).Genuine units state) (known : unit.name ∈ units)
    (apart : units.InjOn shortKey)
    (commands : ∀ invocation state, (storeOf settings host root).Genuine units state →
      (storeOf settings host root).Genuine units (runner invocation state).2)
    (meanwhile : ∀ unit state, (storeOf settings host root).Genuine units state →
      (storeOf settings host root).Genuine units (others unit state)) :
    (plan settings options runner root).Accounts unit
        (scanBeside others (plan settings options runner root) (cache? settings host root) state
          unit).1
      ∧ (storeOf settings host root).Genuine units
        (scanBeside others (plan settings options runner root) (cache? settings host root) state
          unit).2 := by
  let visit : Visit := ⟨plan settings options runner root, cache? settings host root, unit, state⟩
  have shared : ∀ cache, visit.cache = some cache → cache.store = storeOf settings host root :=
    fun cache cached => cache?_store cached
  constructor
  · exact visit.report_accounts genuine shared known apart
  · exact meanwhile unit visit.after (visit.genuine_after genuine shared known commands)

/-- In every run of a workspace whose cache holds what its own scans wrote, the books are right,
whatever the commands reply and whenever the run is stopped. `units` are the names of the units of the
workspace, now and before. -/
theorem scanAmid_accounted {units : Set String}
    (ran : scanAmid others settings options runner host = .ok (outcome, done))
    (genuine : (storeOf settings host outcome.root).Genuine units host)
    (commands : ∀ invocation state, (storeOf settings host outcome.root).Genuine units state →
      (storeOf settings host outcome.root).Genuine units (runner invocation state).2)
    (meanwhile : ∀ unit state, (storeOf settings host outcome.root).Genuine units state →
      (storeOf settings host outcome.root).Genuine units (others unit state))
    (known : ∀ unit ∈ outcome.schedule.order, unit.name ∈ units)
    (distinct : ∀ unit ∈ outcome.schedule.order, ∀ other ∈ outcome.schedule.order,
      shortKey unit.name = shortKey other.name → unit = other)
    (apart : units.InjOn shortKey) :
    outcome.schedule = scheduleOf settings host outcome.root
      ∧ Accounted settings options outcome := by
  have made := scanAmid_ok ran
  have scheduled : outcome.schedule = scheduleOf settings host outcome.root :=
    (congrArg RunOutcome.schedule made).trans (schedule_outcomeOf _ _ _)
  rw [scheduled] at known distinct
  -- keys tell the units apart, so their names do
  have once : ((scheduleOf settings host outcome.root).order.map BuildUnit.name).Nodup := by
    have keys := List.pairwise_map.mp (scheduleOf_distinct distinct)
    apply List.pairwise_map.mpr
    exact keys.imp fun differ same => differ (congrArg shortKey same)
  obtain ⟨first, started, report, processed⟩ := scanAllAmid_scanned others settings options runner
    host outcome.root (scheduleOf settings host outcome.root)
  have accounts : List.Forall₂ (plan settings options runner outcome.root).Accounts first
      (Batches.scanBatch (scanBeside others (plan settings options runner outcome.root)
        (cache? settings host outcome.root)) host first).1 := by
    -- the genuine store is what one scan hands on to the next
    apply Batches.scanBatch_forall₂ ?_ genuine
    intro unit member state held
    exact scanBeside_accounts held (known unit (started.subset member)) apart commands meanwhile
  have measures : settings.remedy.rescan = true ∨ options.level = .none ∨ options.dryRun = true →
      (plan settings options runner outcome.root).Measures := by
    rintro (rescans | level | dryRun)
    · exact .inl rescans
    · exact .inr (by simp [ScanPlan.modifiesSources, plan, level])
    · exact .inr (by simp [ScanPlan.modifiesSources, plan, dryRun])
  refine ⟨scheduled, ?_⟩
  rw [made]
  exact accounted_of_reports started once report processed accounts measures

end General

/-! The workspace of two units again, scanned a second time: one report comes from the cache, and the
other checker fails again. -/
namespace Detour

/-- The names of the units. -/
def names : Set String := {member.name, rootUnit.name}

theorem names_apart : names.InjOn shortKey := by
  have differ : shortKey member.name ≠ shortKey rootUnit.name := by
    rw [shortKey_member, shortKey_root]
    decide
  rintro name (rfl | rfl) other (rfl | rfl) same
  · rfl
  · exact absurd same differ
  · exact absurd same.symm differ
  · rfl

/-- No file of the workspace is an entry. -/
theorem genuine_host : store.Genuine names (host false) := by
  have nothing : (Json.parseText? "{}").bind CacheEntry.ofJson? = none := by decide +kernel
  constructor
  intro key _ entry stands
  rw [CacheStore.kept?] at stands
  obtain ⟨content, found, decoded⟩ := Option.bind_eq_some_iff.mp stands
  obtain ⟨time, listed⟩ := FileTree.mem_of_fileAt found
  have plain : content = "{}".toUTF8 := by
    simp only [host, Bool.false_eq_true, if_false, List.append_nil, List.mem_cons,
      List.not_mem_nil, Prod.mk.injEq, or_false, reduceCtorEq, and_false, false_or,
      Entry.file.injEq] at listed
    rcases listed with ⟨_, same, _⟩ | ⟨_, same, _⟩
    · exact same
    · exact same
  rw [plain, CacheStore.decoded?, CacheStore.fromUTF8?_toUTF8, Option.bind_eq_bind,
    Option.bind_some, nothing] at decoded
  cases decoded

theorem genuine_done : store.Genuine names (done false) := by
  have commands : ∀ invocation state, store.Genuine names state →
      store.Genuine names (plan.runner invocation state).2 := fun _ _ held => held
  have shared (visit : Visit) (cached : visit.cache = some cache) :
      ∀ other, visit.cache = some other → other.store = store := by
    intro other found
    obtain rfl := Option.some.inj (cached.symm.trans found)
    rfl
  have middle := (first false).genuine_after genuine_host (shared _ rfl) (.inl rfl) commands
  rw [first_after] at middle
  have last := (second false).genuine_after middle (shared _ rfl) (.inr rfl) commands
  rwa [second_after] at last

/-- The second scans report what the first ones did. -/
theorem reported_again :
    ((plan.visits (some cache) (done false) [member, rootUnit]).map Visit.report).map
        UnitReport.withoutOrigin
      = [(first false).report, (second false).report].map UnitReport.withoutOrigin := by
  have located : storeOf settings (host false) (outcome false).root = store := (host_seen false).1
  have leaves := settled_leaves (settled false) (located ▸ reachable) (host_cache false)
    located.symm rfl fun unit _ => (answers unit).imp fun _ => And.left
  have seen := (unchanged false).seen
  rw [located] at seen
  rw [host_visits, ← visits_eq] at leaves seen
  have repeats := ScanPlan.visits_repeat runner rfl rfl reads (fun unit _ => answers unit) leaves
    seen (.refl _)
  have reports := repeats.reports
  rw [visits_eq] at reports
  exact reports

theorem counted_again :
    (RunReport.ofUnits ((plan.visits (some cache) (done false) [member, rootUnit]).map
      Visit.report)).counts = ⟨1, 0, 1⟩ := by
  have same : (RunReport.ofUnits ((plan.visits (some cache) (done false) [member, rootUnit]).map
        Visit.report)).withoutOrigins
      = (RunReport.ofUnits [(first false).report, (second false).report]).withoutOrigins := by
    simp only [RunReport.ofUnits, RunReport.foldl_merge_withoutOrigins, reported_again]
  have added (one two : UnitReport) : (RunReport.ofUnits [one, two]).counts
      = ((Counts.mk 0 0 0).add one.counts).add two.counts := rfl
  rw [← RunReport.counts_withoutOrigins, same, RunReport.counts_withoutOrigins, added, first_counts,
    second_counts]
  rfl

end Detour

/-- The second run takes the report of the root from the cache, and its books are right. -/
theorem scanAmid_accounted_again :
    ∃ outcome done, scanAmid (fun _ host => host) Detour.settings Detour.options Detour.runner
        (Detour.done false) = .ok (outcome, done)
      ∧ outcome.report.units.map UnitSummary.unit = ["p/a", "."]
      ∧ outcome.report.counts = ⟨1, 0, 1⟩
      ∧ Accounted Detour.settings Detour.options outcome := by
  have ran := Detour.ran_again false
  rw [← scanAmid_alone] at ran
  refine ⟨_, _, ran, ?_⟩
  have located : storeOf Detour.settings (Detour.done false) ⟨"/w"⟩ = Detour.store := by
    rw [← (Detour.host_seen false).1, storeOf, storeOf, Detour.done_host]
    rfl
  have order := Detour.scheduled _ (Detour.done_seen false).2.2.1
  have commands : ∀ invocation state, Detour.store.Genuine Detour.names state →
      Detour.store.Genuine Detour.names (Detour.runner invocation state).2 := fun _ _ held => held
  have meanwhile : ∀ (_ : BuildUnit) state, Detour.store.Genuine Detour.names state →
      Detour.store.Genuine Detour.names state := fun _ _ held => held
  rw [← located] at commands meanwhile
  have known : ∀ unit ∈ (scheduleOf Detour.settings (Detour.done false) ⟨"/w"⟩).order,
      unit.name ∈ Detour.names := by
    rw [order]
    exact List.forall_mem_cons.mpr ⟨.inl rfl, List.forall_mem_cons.mpr ⟨.inr rfl, nofun⟩⟩
  have distinct : ∀ unit ∈ (scheduleOf Detour.settings (Detour.done false) ⟨"/w"⟩).order,
      ∀ other ∈ (scheduleOf Detour.settings (Detour.done false) ⟨"/w"⟩).order,
        shortKey unit.name = shortKey other.name → unit = other := by
    rw [order]
    exact Detour.distinct_keys
  obtain ⟨_, books⟩ := scanAmid_accounted ran (located ▸ Detour.genuine_done) commands meanwhile
    known distinct Detour.names_apart
  have named := books.named
  rw [schedule_outcomeOf, order] at named
  exact ⟨named, (counts_outcomeOf _ _ _).trans Detour.counted_again, books⟩

end Run
end MonorepoCheck
