import Mathlib.Data.List.Nodup
import MonorepoCheck.Proofs.Batches.Scanned
import MonorepoCheck.Proofs.Report.Origin
import MonorepoCheck.Proofs.Report.Words
import MonorepoCheck.Proofs.Scan.Sequence
import MonorepoCheck.Proofs.Schedule.Order
import MonorepoCheck.Run

/-!
What a run scans: the first units of the schedule, one after the other, and all of them unless it is
cancelled.
-/
namespace MonorepoCheck.Run

variable {settings : Settings} {options : RunOptions} {runner : Runner} {host done : Host}
  {outcome : RunOutcome}

/-- The outcome of a run over a schedule. -/
def outcomeOf (root : Path) (schedule : Schedule) (progress : Progress) : RunOutcome :=
  ⟨root, schedule, progress.processed, progress.cancelled,
    (notes schedule progress).foldl RunReport.addNote progress.report⟩

theorem wrapped_of_fits (fits : outcome.report.counts.fits = true) : outcome.wrapped = outcome := by
  rw [RunOutcome.wrapped, Counts.wrapped_of_fits fits]

theorem unitCounts_outcomeOf (root : Path) (schedule : Schedule) (progress : Progress) :
    (outcomeOf root schedule progress).report.unitCounts = progress.report.unitCounts :=
  RunReport.unitCounts_addNotes _ _

/-- The schedule of the units of a workspace. -/
def scheduleOf (settings : Settings) (host : Host) (root : Path) : Schedule :=
  (DependencyGraph.ofUnits ((Workspace.mk root).units host settings)).schedule

/-- A scan by its parts: a workspace, its schedule, and the scans of its units. -/
theorem scan_of_workspace {workspace : Workspace} {progress : Progress}
    (found : Workspace.inDirectory host options.root = .ok workspace)
    (scanned : scanAll settings options runner host workspace.root
      (scheduleOf settings host workspace.root) = (progress, done)) :
    scan settings options runner host =
      if (workspace.units host settings).isEmpty then
        .error (.noUnitsFound workspace.root settings.configurationFile)
      else if progress.cancelled && progress.processed == 0 then .error .cancelled
      else .ok (outcomeOf workspace.root (scheduleOf settings host workspace.root) progress,
        done) := by
  rw [scheduleOf] at scanned
  rw [scan, found]
  simp only [bind, Except.bind]
  rw [scanned, outcomeOf, scheduleOf]
  generalize workspace.units host settings = units
  cases units.isEmpty
  · rfl
  · rfl

/-- What a run that has an outcome did. -/
theorem scan_ok (ran : scan settings options runner host = .ok (outcome, done)) :
    Workspace.inDirectory host options.root = .ok ⟨outcome.root⟩
      ∧ (Workspace.mk outcome.root).units host settings ≠ []
      ∧ outcome.schedule = scheduleOf settings host outcome.root
      ∧ ∃ progress, scanAll settings options runner host outcome.root outcome.schedule
          = (progress, done)
        ∧ outcome = outcomeOf outcome.root outcome.schedule progress := by
  cases found : Workspace.inDirectory host options.root with
  | error failure =>
      rw [scan, found] at ran
      cases ran
  | ok workspace =>
      rcases scanned : scanAll settings options runner host workspace.root
        (scheduleOf settings host workspace.root) with ⟨progress, last⟩
      rw [scan_of_workspace found scanned] at ran
      split at ran
      · cases ran
      · rename_i present
        split at ran
        · cases ran
        · obtain ⟨rfl, rfl⟩ := Prod.mk.inj (Except.ok.inj ran)
          exact ⟨rfl, fun none' => present (List.isEmpty_iff.mpr none'), rfl, progress, scanned,
            rfl⟩

theorem scheduleOf_distinct {root : Path}
    (distinct : ∀ unit ∈ (scheduleOf settings host root).order,
      ∀ other ∈ (scheduleOf settings host root).order,
        shortKey unit.name = shortKey other.name → unit = other) :
    ((scheduleOf settings host root).order.map fun unit => shortKey unit.name).Nodup := by
  have once := DependencyGraph.walk_once ((Workspace.mk root).units host settings)
  rw [← DependencyGraph.schedule_order_paths] at once
  exact List.Nodup.map_on distinct (List.Nodup.of_map _ once)

theorem order_present {units : List BuildUnit} (present : units ≠ []) :
    (DependencyGraph.ofUnits units).schedule.order ≠ [] := by
  obtain ⟨unit, rest, found⟩ := List.exists_cons_of_ne_nil present
  have walked := (DependencyGraph.walk_complete units unit.path).mpr
    ⟨unit, by rw [found]; exact List.mem_cons_self, rfl⟩
  rw [← DependencyGraph.schedule_order_paths] at walked
  intro none'
  rw [none'] at walked
  cases walked

theorem scheduleOf_present {root : Path}
    (present : (Workspace.mk root).units host settings ≠ []) :
    (scheduleOf settings host root).order ≠ [] := order_present present

/-- What a run scanned: the first units of its schedule, all of them unless it was cancelled. -/
structure Scans (plan : ScanPlan) (cache : Option Cache) (host : Host) (order first : List BuildUnit)
    (result : Progress × Host) : Prop where
  inOrder : first <+: order
  report : result.1.report
    = .ofUnits ((plan.visits cache host first).map Visit.report)
  processed : result.1.processed = first.length
  left : result.2 = plan.afterVisits cache host first
  whole : result.1.cancelled = false → first = order
  began : host.cancelled = false → order ≠ [] → first ≠ []

theorem scanAll_scans (settings : Settings) (options : RunOptions) (runner : Runner) (host : Host)
    (root : Path) (schedule : Schedule) :
    ∃ first, Scans (plan settings options runner root) (cache? settings host root) host
      schedule.order first (scanAll settings options runner host root schedule) := by
  obtain ⟨first, rest, order, scanned, finished, began⟩ := Batches.run_scanned Host.cancelled
    ((plan settings options runner root).scan (cache? settings host root))
    (if settings.execution.parallel then some (settings.execution.workers host.workers) else none)
    host schedule.order
  obtain ⟨report, processed, left⟩ := scanned
  rw [ScanPlan.scanBatch_visits] at report left
  refine ⟨first, ⟨rest, order.symm⟩, report, processed.trans (Nat.zero_add _), left, ?_, began⟩
  intro uncancelled
  rw [order, finished uncancelled, List.append_nil]

/-- A run whose units fit into one batch scans all of them, whatever happens meanwhile. -/
theorem scan_in_one_batch (settings : Settings) (options : RunOptions) (runner : Runner)
    {host : Host} {root : Path} {first : BuildUnit} {rest : List BuildUnit}
    (found : Workspace.inDirectory host options.root = .ok ⟨root⟩)
    (present : (Workspace.mk root).units host settings ≠ [])
    (order : (scheduleOf settings host root).order = first :: rest)
    (few : rest.length < settings.execution.batchSize host.workers)
    (running : host.cancelled = false) :
    scan settings options runner host
      = .ok (outcomeOf root (scheduleOf settings host root)
          ⟨.ofUnits (((plan settings options runner root).visits (cache? settings host root) host
            (first :: rest)).map Visit.report), rest.length + 1, false⟩,
        (plan settings options runner root).afterVisits (cache? settings host root) host
          (first :: rest)) := by
  have positive : 0 < settings.execution.batchSize host.workers := Batches.size_pos _
  have whole : (first :: rest).length ≤ settings.execution.batchSize host.workers := few
  -- the run asks whether to stop before a batch only, and there is one batch
  have scanned : scanAll settings options runner host root (scheduleOf settings host root)
      = (⟨.ofUnits (((plan settings options runner root).visits (cache? settings host root) host
            (first :: rest)).map Visit.report), rest.length + 1, false⟩,
          (plan settings options runner root).afterVisits (cache? settings host root) host
            (first :: rest)) := by
    rw [scanAll, order, Batches.run, Batches.cut_of_ne_nil positive (List.cons_ne_nil _ _),
      List.take_of_length_le whole, List.drop_eq_nil_of_le whole, Batches.cut_nil,
      Batches.runFrom, if_neg (by rw [running]; exact Bool.false_ne_true),
      ScanPlan.scanBatch_visits, List.length_cons, Nat.zero_add]
    rfl
  rw [scan_of_workspace found scanned, if_neg fun none' => present (List.isEmpty_iff.mp none')]
  rfl

end MonorepoCheck.Run
