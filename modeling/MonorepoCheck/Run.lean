import MonorepoCheck.Advice.Enrich
import MonorepoCheck.Report.Document
import MonorepoCheck.Scan.Batches
import MonorepoCheck.Scan.Unit
import MonorepoCheck.Unit.Discovery
import MonorepoCheck.Unit.Schedule

/-!
A whole run: find the units, put them in order, scan them in batches, and ask for advice on what
remains. A run fails only where there is no root, no unit, or no time to begin.
-/
namespace MonorepoCheck

/-- What is asked of one run, beside the settings. -/
structure RunOptions where
  root : Path
  level : RemedyLevel := .none
  filter : Filter := ⟨[], []⟩
  /-- whether fixes are only announced -/
  dryRun : Bool := false
  /-- whether a language model is asked for advice -/
  advice : Bool := false
  deriving DecidableEq, Repr, Inhabited

structure RunOutcome where
  root : Path
  schedule : Schedule
  processed : Nat
  cancelled : Bool
  report : RunReport
  deriving Repr, Inhabited

namespace RunOutcome

/-- The outcome with its counts in the words of an optimized build. The counts are exact before. -/
def wrapped (outcome : RunOutcome) : RunOutcome :=
  { outcome with
    report := { outcome.report with counts := outcome.report.counts.wrapped } }

/-- Exit status 0 means that nothing remains. -/
def exitStatus (outcome : RunOutcome) : Nat := if outcome.report.isClean then 0 else 1

/-- The document of a run, under an identifier and at a time. -/
def document (outcome : RunOutcome) (options : RunOptions) (runId generatedAt version : String)
    (durationMs : Nat) : Document where
  circumstances := {
    runId := runId
    generatedAt := generatedAt
    version := version
    workspaceRoot := outcome.root.text
    durationMs := durationMs
    remedy := options.level.name
    dryRun := options.dryRun
    unitsDiscovered := outcome.schedule.order.length
    unitsScanned := outcome.processed
    unitsFromCache := (outcome.report.units.filter UnitSummary.fromCache).length
    cancelled := outcome.cancelled }
  status := outcome.report.status
  report := outcome.report

end RunOutcome

namespace Run

/-- The cache of a run, unless it is turned off. -/
def cache? (settings : Settings) (host : Host) (root : Path) : Option Cache :=
  if settings.cache.enabled then
    let directory := settings.cache.resolvedDirectory host.temporary
    some (Cache.ofSettings (CacheStore.ofWorkspace directory root) settings)
  else none

def plan (settings : Settings) (options : RunOptions) (runner : Runner) (root : Path) :
    ScanPlan where
  root := root
  settings := settings
  filter := options.filter
  level := options.level
  dryRun := options.dryRun
  runner := runner

def skippedNote (skipped : SkippedReference) : String :=
  "dependency cycle: skipped edge " ++ skipped.source ++ " -> " ++ skipped.target

/-- What the run adds to the notes of its units. -/
def notes (schedule : Schedule) (progress : Progress) : List String :=
  schedule.skipped.map skippedNote
    ++ if progress.cancelled then
        ["run cancelled after " ++ Text.decimalText progress.processed ++ " of "
          ++ Text.decimalText schedule.order.length ++ " unit(s)"]
      else []

/-- Scans the units of a schedule. -/
def scanAll (settings : Settings) (options : RunOptions) (runner : Runner) (host : Host)
    (root : Path) (schedule : Schedule) : Progress × Host :=
  let plan := plan settings options runner root
  let cache := cache? settings host root
  Batches.run (settings.execution.batchSize host.workers) Host.cancelled (plan.scan cache) host
    schedule.order

/-- Finds, orders and scans the units of a workspace. -/
def scan (settings : Settings) (options : RunOptions) (runner : Runner) (host : Host) :
    Except Failure (RunOutcome × Host) := do
  let workspace ← Workspace.inDirectory host options.root
  let units := workspace.units host settings
  if units.isEmpty then .error (.noUnitsFound workspace.root settings.configurationFile)
  else
    let schedule := (DependencyGraph.ofUnits units).schedule
    let (progress, host) := scanAll settings options runner host workspace.root schedule
    if progress.cancelled && progress.processed == 0 then .error .cancelled
    else
      let report := (notes schedule progress).foldl RunReport.addNote progress.report
      pure (⟨workspace.root, schedule, progress.processed, progress.cancelled, report⟩, host)

/-- A scan, with advice on what remains if that is wanted. -/
def execute (settings : Settings) (options : RunOptions) (runner : Runner)
    (model : Advice.Model σ) (host : Host) (state : σ) :
    Except Failure (RunOutcome × Host × σ) := do
  let (outcome, host) ← scan settings options runner host
  let outcome := outcome.wrapped
  if (options.advice || settings.advice.enabled) && !outcome.report.isClean then
    let (report, _, state) := Advice.enrich settings.advice model outcome.report state
    pure ({ outcome with report := report }, host, state)
  else pure (outcome, host, state)

end Run
end MonorepoCheck
