import MonorepoCheck.Cache.Freshness
import MonorepoCheck.Scan.Remedy

/-!
Scanning one unit: a kept report where one may stand in, else a collection, a fix if the plan has
one, and a new kept report unless the collection was degraded.
-/
namespace MonorepoCheck.ScanPlan

/-- The report of a scan: what the collection found and what the fix did to it. -/
def report (unit : BuildUnit) (collection : Collection) (remedy : RemedyOutcome) : UnitReport :=
  let report := UnitReport.ofDiagnostics unit.name collection.found
  let report := match remedy.remaining with
    | some remaining => report.afterRescan remaining
    | none => report.markFixed remedy.fixed
  { report with notes := report.notes ++ collection.degraded.toList ++ remedy.notes }

/-- The kept report that may stand in for a scan. A fix has to run, so nothing stands in for it. -/
def keptReport? (plan : ScanPlan) (cache : Option Cache) (host : Host) (unit : BuildUnit) :
    Option UnitReport :=
  if plan.settings.cache.reuse && !plan.modifiesSources then
    cache.bind fun cache => cache.lookup host unit plan.fingerprint
  else none

/-- Collects, fixes and keeps the report. -/
def scanAnew (plan : ScanPlan) (cache : Option Cache) (host : Host) (unit : BuildUnit) :
    UnitReport × Host :=
  let (collection, host) := plan.collect host unit
  let (remedy, host) := plan.applyRemedy host unit collection.found
  let report := report unit collection remedy
  match cache, collection.degraded with
  | some cache, none => (report, cache.record host unit plan.fingerprint report)
  | _, _ => (report, host)

def scan (plan : ScanPlan) (cache : Option Cache) (host : Host) (unit : BuildUnit) :
    UnitReport × Host :=
  match plan.keptReport? cache host unit with
  | some report => (report, host)
  | none => plan.scanAnew cache host unit

end MonorepoCheck.ScanPlan
