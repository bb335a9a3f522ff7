import MonorepoCheck.Proofs.Scan.Leaves

/-!
Scanning units a second time while nothing that the scans look at has changed. Kept reports are
handed out, and the checkers that could not do their work fail in the same way.
-/
namespace MonorepoCheck

/-- Whether two machines have the same files, as seen from the same directory. -/
structure SameFiles (host later : Host) : Prop where
  files : later.files = host.files
  here : later.here = host.here

/-- Commands that leave the files and the list of commands as they are. -/
structure ReadsOnly (runner : Runner) : Prop where
  files : ∀ invocation host, (runner invocation host).2.files = host.files
  here : ∀ invocation host, (runner invocation host).2.here = host.here
  history : ∀ invocation host, (runner invocation host).2.history = host.history

namespace SameFiles

variable {host later : Host}

theorem refl (host : Host) : SameFiles host host := ⟨rfl, rfl⟩

theorem trans {last : Host} (first : SameFiles host later) (second : SameFiles later last) :
    SameFiles host last :=
  ⟨second.files.trans first.files, second.here.trans first.here⟩

theorem isFileAt (same : SameFiles host later) (path : Path) :
    later.isFileAt path = host.isFileAt path := by
  rw [Host.isFileAt, Host.isFileAt, same.files, same.here]

theorem load (same : SameFiles host later) (store : CacheStore) (key : String) :
    store.load later key = store.load host key := by
  rw [CacheStore.load, CacheStore.load, Host.readText, Host.readText, same.files, same.here]

theorem sourceTimes (same : SameFiles host later) (cache : Cache) (path : Path) :
    cache.sourceTimes later path = cache.sourceTimes host path := by
  rw [Cache.sourceTimes, Cache.sourceTimes, same.files, same.here]

/-- Running a command that only reads. -/
theorem run {runner : Runner} (reads : ReadsOnly runner) (host : Host) (invocation : Invocation) :
    SameFiles host (host.run runner invocation).2 :=
  ⟨reads.files _ _, reads.here _ _⟩

end SameFiles

/-- The plan with other commands behind it. -/
def ScanPlan.through (plan : ScanPlan) (runner : Runner) : ScanPlan := { plan with runner := runner }

namespace ScanPlan

variable {plan : ScanPlan} {cache : Cache} {host later : Host} {unit : BuildUnit}

/-- Only the entry of the unit and the times of its sources tell whether a kept report stands in. -/
theorem keptReport?_congr
    (sameEntry : cache.store.load later (shortKey unit.name)
      = cache.store.load host (shortKey unit.name))
    (sameTimes : cache.sourceTimes later unit.path = cache.sourceTimes host unit.path) :
    plan.keptReport? (some cache) later unit = plan.keptReport? (some cache) host unit := by
  have sameNewest : cache.newestSource later unit.path = cache.newestSource host unit.path := by
    rw [Cache.newestSource, Cache.newestSource, sameTimes]
  have sameFresh (entry : CacheEntry) : cache.isFresh later unit plan.fingerprint entry
      = cache.isFresh host unit plan.fingerprint entry := by
    rw [Cache.isFresh, Cache.isFresh, sameNewest]
  simp only [keptReport?, Option.bind_some, Cache.lookup, sameEntry, sameFresh]

end ScanPlan

namespace Visit

variable {store : CacheStore} {cache : Cache} {visit : Visit} {host last : Host}
  {runner : Runner}

/-- What the next scan of a unit looks at, beside the entry in the store, is as it was: no source is
newer than the entry, or the checker is as unable to work as before. -/
structure Unchanged (cache : Cache) (visit : Visit) (last : Host) : Prop where
  older : ¬ visit.Degraded → ∀ entry,
    cache.store.load last (shortKey visit.unit.name) = some entry →
    ∀ time ∈ cache.sourceTimes last visit.unit.path, time.isAfter entry.savedAt = false
  configuration : visit.Degraded →
    last.isFileAt visit.unit.configuration = visit.before.isFileAt visit.unit.configuration
  sources : visit.Degraded →
    cache.sourceTimes last visit.unit.path = cache.sourceTimes visit.before visit.unit.path

/-- What scanning again the units of some scans does: it reports the same, changes no file, and asks
only the checkers that could not do their work. -/
structure Repeats (visits : List Visit) (plan : ScanPlan) (host : Host) (reports : List UnitReport)
    (after : Host) : Prop where
  reports : reports.map UnitReport.withoutOrigin
    = (visits.map Visit.report).map UnitReport.withoutOrigin
  files : SameFiles host after
  asked : ∃ asked : List BuildUnit, after.history = host.history ++ asked.map plan.checkerInvocation
    ∧ asked.Sublist (visits.map Visit.unit)
    ∧ ∀ unit ∈ asked, ∃ visit ∈ visits, visit.unit = unit ∧ visit.Degraded

/-- A scan that finds a kept report hands it out. -/
theorem repeats_entry (reuse : visit.plan.settings.cache.reuse = true)
    (readOnly : visit.plan.modifiesSources = false) {entry : CacheEntry}
    (loaded : cache.store.load host (shortKey visit.unit.name) = some entry)
    (sameOptions : entry.fingerprint = visit.plan.fingerprint)
    (older : ∀ time ∈ cache.sourceTimes host visit.unit.path, time.isAfter entry.savedAt = false)
    (sameReport : visit.report.withoutOrigin = entry.report.withoutOrigin) :
    Repeats [visit] visit.plan host
      [((visit.plan.through runner).scan (some cache) host visit.unit).1]
      ((visit.plan.through runner).scan (some cache) host visit.unit).2 := by
  have served : (visit.plan.through runner).keptReport? (some cache) host visit.unit
      = some { entry.report with fromCache := true } :=
    ScanPlan.keptReport?_of_load reuse readOnly loaded (Cache.isFresh_iff.mpr ⟨sameOptions, older⟩)
  rw [ScanPlan.scan_served served]
  constructor
  case reports =>
      rw [List.map_singleton, List.map_singleton, List.map_singleton, sameReport]
      rfl
  case files => exact .refl host
  case asked => exact ⟨[], by simp, List.nil_sublist _, by simp⟩

/-- A scan whose checker could not do its work before finds the same. -/
theorem repeats_degraded (cached : visit.cache = some cache)
    (readOnly : visit.plan.modifiesSources = false) (reads : ReadsOnly runner)
    {reply : Outcome} (answers : visit.plan.Answers visit.unit reply)
    (again : (visit.plan.through runner).Answers visit.unit reply) (degraded : visit.Degraded)
    (sameEntry : cache.store.load host (shortKey visit.unit.name)
      = cache.store.load visit.before (shortKey visit.unit.name))
    (sameTimes : cache.sourceTimes host visit.unit.path
      = cache.sourceTimes visit.before visit.unit.path)
    (sameFile : host.isFileAt visit.unit.configuration
      = visit.before.isFileAt visit.unit.configuration) :
    Repeats [visit] visit.plan host
      [((visit.plan.through runner).scan (some cache) host visit.unit).1]
      ((visit.plan.through runner).scan (some cache) host visit.unit).2 := by
  obtain ⟨missed, partly⟩ := degraded
  obtain ⟨reason, unable⟩ := Option.ne_none_iff_exists'.mp partly
  obtain ⟨first, second⟩ := ScanPlan.collect_degraded answers unable again sameFile
  have missedAgain : (visit.plan.through runner).keptReport? (some cache) host visit.unit = none := by
    rw [ScanPlan.keptReport?_congr sameEntry sameTimes, ← cached]
    exact missed
  -- what is degraded is never kept, so nothing is written this time either
  have unkept : (visit.plan.through runner).keeping? (some cache) host visit.unit = none := by
    apply ScanPlan.keeping?_of_degraded
    rw [second]
    exact Option.some_ne_none _
  have asks : (visit.plan.through runner).freshHost host visit.unit
      = ((visit.plan.through runner).collect host visit.unit).2 :=
    ScanPlan.freshHost_readOnly readOnly
  rw [ScanPlan.scan_missed missedAgain, ScanPlan.scan_unkept missedAgain unkept, asks]
  have made : (visit.plan.through runner).freshReport host visit.unit = ScanPlan.report visit.unit
      ((visit.plan.through runner).collect host visit.unit).1 (.idle (visit.plan.idleNotes visit.unit
        ((visit.plan.through runner).collect host visit.unit).1.found)) :=
    ScanPlan.freshReport_readOnly readOnly
  have report : (visit.plan.through runner).freshReport host visit.unit = visit.report := by
    rw [made, second, Visit.report_missed missed, ScanPlan.freshReport_readOnly readOnly, first]
  rw [report]
  -- without its configuration the checker is not even asked
  cases present : host.isFileAt visit.unit.configuration with
  | true =>
      rw [ScanPlan.collect_of_file present]
      constructor
      case reports => rfl
      case files => exact .run reads host _
      case asked =>
          refine ⟨[visit.unit], reads.history _ _, List.Sublist.refl _, ?_⟩
          intro unit member
          obtain rfl := List.mem_singleton.mp member
          exact ⟨visit, List.mem_singleton_self visit, rfl, missed, partly⟩
  | false =>
      rw [ScanPlan.collect_of_no_file present]
      constructor
      case reports => rfl
      case files => exact .refl host
      case asked => exact ⟨[], by simp, List.nil_sublist _, by simp⟩

theorem Leaves.later {later : Host} (leaves : visit.Leaves store last)
    (same : SameFiles last later) : visit.Leaves store later := by
  cases leaves with
  | entry working entry loaded sameOptions sameReport =>
      exact .entry working entry ((same.load _ _).trans loaded) sameOptions sameReport
  | degraded degraded sameEntry => exact .degraded degraded ((same.load _ _).trans sameEntry)

/-- The second scan of one unit. -/
theorem repeats_one (cached : visit.cache = some cache)
    (reuse : visit.plan.settings.cache.reuse = true)
    (readOnly : visit.plan.modifiesSources = false) (reads : ReadsOnly runner)
    {reply : Outcome} (answers : visit.plan.Answers visit.unit reply)
    (again : (visit.plan.through runner).Answers visit.unit reply)
    (leaves : visit.Leaves cache.store last) (unchanged : visit.Unchanged cache last)
    (same : SameFiles last host) :
    Repeats [visit] visit.plan host
      [((visit.plan.through runner).scan (some cache) host visit.unit).1]
      ((visit.plan.through runner).scan (some cache) host visit.unit).2 := by
  cases leaves with
  | entry working entry loaded sameOptions sameReport =>
      have older := unchanged.older working entry loaded
      rw [← same.sourceTimes] at older
      rw [← same.load] at loaded
      exact repeats_entry reuse readOnly loaded sameOptions older sameReport
  | degraded degraded sameEntry =>
      exact repeats_degraded cached readOnly reads answers again degraded
        ((same.load _ _).trans sameEntry)
        ((same.sourceTimes _ _).trans (unchanged.sources degraded))
        ((same.isFileAt _).trans (unchanged.configuration degraded))

theorem Repeats.nil (plan : ScanPlan) (host : Host) : Repeats [] plan host [] host where
  reports := rfl
  files := .refl host
  asked := ⟨[], by simp, List.Sublist.refl _, by simp⟩

theorem Repeats.cons {plan : ScanPlan} {visits : List Visit} {report : UnitReport}
    {reports : List UnitReport} {middle after : Host}
    (first : Repeats [visit] plan host [report] middle)
    (others : Repeats visits plan middle reports after) :
    Repeats (visit :: visits) plan host (report :: reports) after := by
  constructor
  case reports => exact congrArg₂ (· ++ ·) first.reports others.reports
  case files => exact first.files.trans others.files
  case asked =>
      obtain ⟨asked, history, inOrder, unable⟩ := first.asked
      obtain ⟨more, grown, inOrder', unable'⟩ := others.asked
      refine ⟨asked ++ more, ?_, inOrder.append inOrder', ?_⟩
      · rw [grown, history, List.map_append, List.append_assoc]
      · intro unit member
        rcases List.mem_append.mp member with old | new
        · obtain ⟨found, only, degraded⟩ := unable unit old
          exact ⟨found, List.mem_cons.mpr (.inl (List.mem_singleton.mp only)), degraded⟩
        · obtain ⟨found, member, degraded⟩ := unable' unit new
          exact ⟨found, List.mem_cons_of_mem _ member, degraded⟩

/-- The second scans of units one after another. -/
theorem repeats_all {plan : ScanPlan} {visits : List Visit}
    (each : ∀ visit ∈ visits, ∀ host, SameFiles last host →
      Repeats [visit] plan host [((plan.through runner).scan (some cache) host visit.unit).1]
        ((plan.through runner).scan (some cache) host visit.unit).2)
    (same : SameFiles last host) :
    Repeats visits plan host
      (Batches.scanBatch ((plan.through runner).scan (some cache)) host
        (visits.map Visit.unit)).1
      (Batches.scanBatch ((plan.through runner).scan (some cache)) host
        (visits.map Visit.unit)).2 := by
  induction visits generalizing host with
  | nil => exact .nil plan host
  | cons visit visits ih =>
      obtain ⟨first, others⟩ := List.forall_mem_cons.mp each
      have now := first host same
      exact now.cons (ih others (same.trans now.files))

end Visit

namespace ScanPlan

variable {plan : ScanPlan} {cache : Cache} {host last later : Host} {units : List BuildUnit}

theorem visits_units (plan : ScanPlan) (cache : Option Cache) (host : Host)
    (units : List BuildUnit) : (plan.visits cache host units).map Visit.unit = units := by
  induction units generalizing host with
  | nil => rfl
  | cons unit units ih => exact congrArg (unit :: ·) (ih _)

/-- Scanning units again repeats their first scans, if those left what the second ones need. -/
theorem visits_repeat (runner : Runner) (reuse : plan.settings.cache.reuse = true)
    (readOnly : plan.modifiesSources = false) (reads : ReadsOnly runner)
    (answers : ∀ unit ∈ units, ∃ reply,
      plan.Answers unit reply ∧ (plan.through runner).Answers unit reply)
    (leaves : ∀ visit ∈ plan.visits (some cache) host units, visit.Leaves cache.store last)
    (seen : ∀ visit ∈ plan.visits (some cache) host units, visit.Unchanged cache later)
    (files : SameFiles last later) :
    Visit.Repeats (plan.visits (some cache) host units) plan later
      (((plan.through runner).visits (some cache) later units).map Visit.report)
      ((plan.through runner).afterVisits (some cache) later units) := by
  -- no scan changes a file, so each of them finds what the first run left
  have each : ∀ visit ∈ plan.visits (some cache) host units, ∀ now, SameFiles later now →
      Visit.Repeats [visit] plan now
        [((plan.through runner).scan (some cache) now visit.unit).1]
        ((plan.through runner).scan (some cache) now visit.unit).2 := by
    intro visit member now same
    obtain ⟨before, rest, listed, made, _⟩ := visits_split member
    obtain ⟨reply, first, second⟩ := answers visit.unit (by rw [listed]; simp)
    have planned : visit.plan = plan := by rw [made]
    rw [← planned] at reuse readOnly first second ⊢
    exact Visit.repeats_one (by rw [made]) reuse readOnly reads first second
      ((leaves visit member).later files) (seen visit member) same
  have all := Visit.repeats_all each (.refl later)
  rwa [visits_units, scanBatch_visits] at all

end ScanPlan
end MonorepoCheck
