import MonorepoCheck.Proofs.Report.Origin
import MonorepoCheck.Proofs.Scan.History

/-!
How a kept report is shaped. The checker and the settings for snippets and hints shape a report, but a
fingerprint does not tell them: a kept report has the shape of the scan that made it, also where it
stands in for a scan under other settings.
-/
namespace MonorepoCheck

/-- A diagnostic without what the settings attach to it. -/
def Diagnostic.bare (d : Diagnostic) : Diagnostic := { d with snippet := none, suggestions := none }

def Findings.bareGroup (group : String × List Diagnostic) : String × List Diagnostic :=
  (group.1, group.2.map Diagnostic.bare)

def Findings.bare (findings : Findings) : Findings :=
  ⟨findings.groups.map bareGroup, List.pairwise_map.mpr findings.rising⟩

/-- A report up to its origin and to what the settings attach. -/
def UnitReport.bare (report : UnitReport) : UnitReport :=
  { report.withoutOrigin with findings := report.findings.bare }

namespace Findings

theorem modifyGroups_bare (file : String) (d : Diagnostic) (groups : List (String × List Diagnostic)) :
    modifyGroups file (· ++ [d.bare]) (groups.map bareGroup)
      = (modifyGroups file (· ++ [d]) groups).map bareGroup := by
  induction groups with
  | nil => rfl
  | cons group groups ih =>
      obtain ⟨other, found⟩ := group
      rw [List.map_cons, bareGroup, modifyGroups, modifyGroups]
      by_cases before : file < other
      · rw [if_pos before, if_pos before]
        rfl
      · rw [if_neg before, if_neg before]
        by_cases same : file = other
        · rw [if_pos same, if_pos same, List.map_cons, bareGroup, List.map_append]
          rfl
        · rw [if_neg same, if_neg same, ih]
          rfl

theorem ofList_bare (found : List Diagnostic) :
    ofList (found.map Diagnostic.bare) = (ofList found).bare := by
  suffices grown : ∀ start : Findings,
      (found.map Diagnostic.bare).foldl (fun findings d => findings.append d.file [d]) start.bare
        = (found.foldl (fun findings d => findings.append d.file [d]) start).bare from grown empty
  induction found with
  | nil => exact fun _ => rfl
  | cons d found ih =>
      intro start
      have step : start.bare.append d.bare.file [d.bare] = (start.append d.file [d]).bare := by
        have groups := modifyGroups_bare d.file d start.groups
        simp only [Findings.append, Findings.modify, Findings.bare, Findings.mk.injEq]
        exact groups
      rw [List.map_cons, List.foldl_cons, List.foldl_cons, step]
      exact ih _

end Findings

/-- A filter looks at codes and files alone. -/
theorem Filter.apply_bare (filter : Filter) (found : List Diagnostic) :
    filter.apply (found.map Diagnostic.bare) = (filter.apply found).map Diagnostic.bare := by
  rw [apply, apply]
  split
  · rfl
  · rw [List.filter_map]
    rfl

namespace ScanPlan

/-- The plan with the checker of another one, and its snippets and hints. -/
def shapedLike (plan other : ScanPlan) : ScanPlan :=
  { plan with settings := { plan.settings with
      attachSnippets := other.settings.attachSnippets
      snippetContext := other.settings.snippetContext
      attachHints := other.settings.attachHints
      checker := other.settings.checker } }

/-- The plan with no use of kept reports. -/
def anew (plan : ScanPlan) : ScanPlan :=
  { plan with settings := { plan.settings with cache := { plan.settings.cache with reuse := false } } }

/-- The checker's reply, and the machine after it. -/
def asked (plan : ScanPlan) (host : Host) (unit : BuildUnit) : Outcome × Host :=
  host.run plan.runner (plan.checkerInvocation unit)

/-- The files that are read for snippets. -/
def filesRead (unit : BuildUnit) (reply : Outcome) : List Path :=
  let lines := CheckerLine.readAll (reply.output?.getD "").toList
  lines.map fun line => readPath (spellings unit lines) (reportedFile unit line)

variable {plan other : ScanPlan} {cache : Option Cache} {host later : Host} {unit : BuildUnit}

theorem keptReport?_anew : plan.anew.keptReport? cache host unit = none := rfl

theorem scan_anew : (plan.anew.scan cache host unit).1 = plan.freshReport host unit :=
  scan_missed keptReport?_anew

/-- A collection looks at no more of the settings than what shapes it, and at no file that it does not
read. -/
theorem collection_shapedLike (root : other.root = plan.root) (filter : other.filter = plan.filter)
    (reply : Outcome)
    (sources : ∀ file ∈ filesRead unit reply, later.readText file = host.readText file) :
    (other.shapedLike plan).collection later unit reply = plan.collection host unit reply := by
  cases reply with
  | completed success code output =>
      have each : ∀ line ∈ CheckerLine.readAll output.toList,
          (other.shapedLike plan).diagnostic later unit
              (spellings unit (CheckerLine.readAll output.toList)) line
            = plan.diagnostic host unit (spellings unit (CheckerLine.readAll output.toList)) line := by
        intro line member
        have read : later.readText (readPath (spellings unit (CheckerLine.readAll output.toList))
              (reportedFile unit line))
            = host.readText (readPath (spellings unit (CheckerLine.readAll output.toList))
              (reportedFile unit line)) := sources _ (List.mem_map_of_mem member)
        simp only [diagnostic, snippet?, shapedLike, root, read]
      have same : (other.shapedLike plan).filter = plan.filter := filter
      rw [collection, collection, List.map_congr_left each, same]
  | timedOut milliseconds => rfl
  | failedToStart reason => rfl

/-- The settings and the files show in what is attached to the diagnostics alone. -/
theorem collection_bare (root : other.root = plan.root) (filter : other.filter = plan.filter)
    (host later : Host) (reply : Outcome) :
    (other.collection later unit reply).found.map Diagnostic.bare
        = (plan.collection host unit reply).found.map Diagnostic.bare
      ∧ (other.collection later unit reply).degraded = (plan.collection host unit reply).degraded := by
  cases reply with
  | completed success code output =>
      constructor
      · rw [collection, collection, ← Filter.apply_bare, ← Filter.apply_bare, filter, List.map_map, List.map_map]
        apply congrArg
        apply List.map_congr_left
        intro line _
        simp only [Function.comp_apply, diagnostic, Diagnostic.bare, root]
      · rfl
  | timedOut milliseconds => exact ⟨rfl, rfl⟩
  | failedToStart reason => exact ⟨rfl, rfl⟩

theorem readOnly_of_none (level : plan.level = .none) : plan.modifiesSources = false := by
  rw [modifiesSources, level]
  rfl

/-- Without a fix, a scan that makes a report anew comes to a collection. -/
theorem fresh_of_none (noFix : plan.level = .none) (host : Host) (unit : BuildUnit) :
    plan.freshReport host unit = report unit (plan.collect host unit).1 (.idle [])
      ∧ plan.freshHost host unit = (plan.collect host unit).2 := by
  have readOnly := readOnly_of_none noFix
  have silent : plan.idleNotes unit (plan.collect host unit).1.found = [] := by
    rw [idleNotes, fixInvocation?, noFix]
    rfl
  exact ⟨by rw [freshReport_readOnly readOnly, silent], freshHost_readOnly readOnly⟩

/-- Without a fix, a report is what the collection found. -/
theorem freshReport_of_none (level : plan.level = .none)
    (present : host.isFileAt unit.configuration = true) :
    plan.freshReport host unit
      = report unit (plan.collection (plan.asked host unit).2 unit (plan.asked host unit).1)
          (.idle []) := by
  rw [(fresh_of_none level host unit).1, collect_of_file present]
  rfl

theorem bare_report (collection : Collection) :
    (report unit collection (.idle [])).bare
      = report unit ⟨collection.found.map Diagnostic.bare, collection.degraded⟩ (.idle []) := by
  simp only [report, RemedyOutcome.idle, UnitReport.bare, UnitReport.withoutOrigin,
    UnitReport.markFixed, UnitReport.ofDiagnostics, Findings.ofList_bare, List.length_map]

theorem isFileAt_of_whole (whole : (plan.collect host unit).1.degraded = none) :
    host.isFileAt unit.configuration = true := by
  cases present : host.isFileAt unit.configuration with
  | true => rfl
  | false =>
      rw [collect_of_no_file present] at whole
      cases whole

theorem freshReport_withoutOrigin :
    (plan.freshReport host unit).withoutOrigin = plan.freshReport host unit := by
  have fresh : (plan.freshReport host unit).fromCache = false := freshReport_fromCache
  rw [UnitReport.withoutOrigin, ← fresh]

end ScanPlan

section General

variable {first second : Visit} {cache : Cache}

/-- Plans of one workspace that fix nothing and accept the same diagnostics. The second one may take
kept reports. -/
structure ScanPlan.Comparable (first second : ScanPlan) : Prop where
  root : second.root = first.root
  filter : second.filter = first.filter
  noFix : first.level = .none
  noFix' : second.level = .none
  dryRun : second.dryRun = first.dryRun
  reuse : second.settings.cache.reuse = true

/-- The second scan of a unit, after the first one recorded its report and nothing has changed. -/
structure Visit.Follows (cache : Cache) (first second : Visit) : Prop where
  cached : second.cache = some cache
  sameUnit : second.unit = first.unit
  recorded : ∃ entry, first.written? = some entry
    ∧ cache.store.load second.before (shortKey first.unit.name) = some entry
    ∧ ∀ time ∈ cache.sourceTimes second.before first.unit.path, time.isAfter entry.savedAt = false
  configuration : second.before.isFileAt first.unit.configuration
    = first.before.isFileAt first.unit.configuration
  /-- the checker of the first scan, asked again, replies the same -/
  reply : ((second.plan.shapedLike first.plan).asked second.before first.unit).1
    = (first.plan.asked first.before first.unit).1
  /-- and the files that it reports are as they were -/
  sources : ∀ file ∈ ScanPlan.filesRead first.unit (first.plan.asked first.before first.unit).1,
    ((second.plan.shapedLike first.plan).asked second.before first.unit).2.readText file
      = (first.plan.asked first.before first.unit).2.readText file

/-- The second report is the one that its scan would make without the cache, but for the first scan's
checker, snippets and hints. -/
structure Visit.ShapedByFirst (first second : Visit) : Prop where
  fromCache : second.report.fromCache = true
  idle : second.after = second.before
  shaped : second.report.withoutOrigin
    = ((second.plan.shapedLike first.plan).anew.scan second.cache second.before second.unit).1
  /-- Snippets and hints aside, a checker that replies the same makes no difference. -/
  bare : (second.plan.asked second.before second.unit).1
      = (first.plan.asked first.before first.unit).1 →
    second.report.bare = (second.plan.anew.scan second.cache second.before second.unit).1.bare

theorem ScanPlan.Comparable.fingerprint_eq {plan other : ScanPlan} (same : Comparable plan other) :
    other.fingerprint = plan.fingerprint := by
  rw [fingerprint, fingerprint, same.filter, same.noFix, same.noFix', same.dryRun]

namespace Visit.Follows

/-- The second scan hands out the first report. -/
theorem scan_eq (follows : Follows cache first second)
    (same : first.plan.Comparable second.plan) :
    second.plan.scan second.cache second.before second.unit
      = ({ first.plan.freshReport first.before first.unit with fromCache := true }, second.before) := by
  obtain ⟨cached, sameUnit, ⟨entry, written, loaded, older⟩, _⟩ := follows
  obtain ⟨keeping, kept, rfl⟩ := Visit.written?_some written
  obtain ⟨_, _, _, made⟩ := ScanPlan.keeping?_some kept
  have served : second.plan.keptReport? (some cache) second.before first.unit
      = some { (keeping.entry first.plan first.unit).report with fromCache := true } :=
    ScanPlan.keptReport?_of_load same.reuse (ScanPlan.readOnly_of_none same.noFix') loaded
      (Cache.isFresh_iff.mpr ⟨same.fingerprint_eq.symm, older⟩)
  rw [cached, sameUnit, ScanPlan.scan_served served, made]
  rfl

theorem present (follows : Follows cache first second) :
    first.before.isFileAt first.unit.configuration = true := by
  obtain ⟨entry, written, _⟩ := follows.recorded
  obtain ⟨keeping, kept, _⟩ := Visit.written?_some written
  obtain ⟨_, _, whole, _⟩ := ScanPlan.keeping?_some kept
  exact ScanPlan.isFileAt_of_whole whole

end Visit.Follows

/-- A kept report that stands in for a scan under other settings has the shape of the scan that made it,
and nothing else of it is out of place. -/
theorem kept_report_shaped (same : first.plan.Comparable second.plan)
    (follows : Visit.Follows cache first second) : first.ShapedByFirst second := by
  have scanned := follows.scan_eq same
  have made := ScanPlan.freshReport_of_none same.noFix follows.present
  have presentAgain := follows.configuration.trans follows.present
  have handedOut : second.report.withoutOrigin = first.plan.freshReport first.before first.unit := by
    rw [Visit.report, scanned, ← ScanPlan.freshReport_withoutOrigin]
    rfl
  constructor
  case fromCache => rw [Visit.report, scanned]
  case idle => rw [Visit.after, scanned]
  case shaped =>
      have noFix : (second.plan.shapedLike first.plan).level = .none := same.noFix'
      rw [handedOut, made, ScanPlan.scan_anew, follows.sameUnit,
        ScanPlan.freshReport_of_none noFix presentAgain, follows.reply,
        ScanPlan.collection_shapedLike same.root same.filter _ follows.sources]
  case bare =>
      intro reply
      rw [follows.sameUnit] at reply
      obtain ⟨found, degraded⟩ := ScanPlan.collection_bare same.root same.filter
        (first.plan.asked first.before first.unit).2 (second.plan.asked second.before first.unit).2
        (first.plan.asked first.before first.unit).1
      have bare : second.report.bare = second.report.withoutOrigin.bare := rfl
      rw [bare, handedOut, made, ScanPlan.scan_anew, follows.sameUnit,
        ScanPlan.freshReport_of_none same.noFix' presentAgain, reply, ScanPlan.bare_report,
        ScanPlan.bare_report, found, degraded]

end General

/-! The unit that is scanned twice again, the second time with hints. -/
namespace Revisit

def hinted : ScanPlan := { plan with settings := { plan.settings with attachHints := true } }

def hintedSecond : Visit := ⟨hinted, some cache, unit, first.after⟩

theorem hinted_seen :
    (cache.store.save checked checked.token entry).1.isFileAt unit.configuration = true
      ∧ (∀ file ∈ ScanPlan.filesRead unit (plan.asked host unit).1,
        ((hinted.shapedLike plan).asked (cache.store.save checked checked.token entry).1
          unit).2.readText file = (plan.asked host unit).2.readText file)
      ∧ (plan.freshReport host unit).findings.toList.map Diagnostic.suggestions
        ≠ (hinted.freshReport (cache.store.save checked checked.token entry).1
            unit).findings.toList.map Diagnostic.suggestions := by
  rw [entry_saved]
  decide +kernel

theorem first_written : first.written? = some entry := by
  have seen : ScanPlan.Keeping.entry ⟨cache, checked, plan.freshReport host unit⟩ first.plan
      first.unit = entry :=
    first_seen.2.2.2
  have written := @Visit.written?_of_kept first _ first_kept
  rw [seen] at written
  exact written (congrArg Prod.snd entry_saved)

theorem replies {other : ScanPlan} (runs : other.runner = runner) (host : Host) :
    (other.asked host unit).1 = .completed false (some 2) "a.ts(1,2): error TS1: no\n" := by
  rw [ScanPlan.asked, Host.run, runs]
  rfl

theorem hinted_comparable : first.plan.Comparable hintedSecond.plan := ⟨rfl, rfl, rfl, rfl, rfl, rfl⟩

theorem hinted_follows : Visit.Follows cache first hintedSecond := by
  obtain ⟨configuration, sources, _⟩ := hinted_seen
  rw [← first_after] at configuration sources
  constructor
  case cached => rfl
  case sameUnit => rfl
  case recorded => exact ⟨entry, first_written, loaded, older⟩
  case configuration => exact configuration.trans first_seen.2.2.1.symm
  case reply => exact (replies rfl _).trans (replies rfl _).symm
  case sources => exact sources

end Revisit

theorem kept_report_shaped_without_hints : Revisit.first.ShapedByFirst Revisit.hintedSecond :=
  kept_report_shaped Revisit.hinted_comparable Revisit.hinted_follows

/-- A kept report may be without hints although the settings want them. -/
theorem kept_report_misshapen : ¬ ∀ (first second : Visit) (cache : Cache),
    first.plan.Comparable second.plan → Visit.Follows cache first second →
    (second.plan.asked second.before second.unit).1 = (first.plan.asked first.before first.unit).1 →
    second.report.withoutOrigin
      = (second.plan.anew.scan second.cache second.before second.unit).1 := by
  intro claim
  have same := claim _ _ _ Revisit.hinted_comparable Revisit.hinted_follows
    ((Revisit.replies rfl _).trans (Revisit.replies rfl _).symm)
  rw [Visit.report, Revisit.hinted_follows.scan_eq Revisit.hinted_comparable, ScanPlan.scan_anew] at same
  have hints := Revisit.hinted_seen.2.2
  rw [← Revisit.first_after] at hints
  exact hints (congrArg (fun report => report.findings.toList.map Diagnostic.suggestions) same)

end MonorepoCheck
