import MonorepoCheck.Proofs.Run.Accounting

/-!
What the success of a run tells: nothing remains in the units that were scanned. These are all units of
the schedule, unless the run was stopped between two batches, which it then says.
-/
namespace MonorepoCheck

namespace RunReport

variable {run : RunReport} {reports : List UnitReport}

theorem addNotes_notes (notes : List String) (run : RunReport) :
    (notes.foldl addNote run).notes = run.notes ++ notes := by
  induction notes generalizing run with
  | nil => exact (List.append_nil run.notes).symm
  | cons note notes ih =>
      rw [List.foldl_cons, ih, addNote, List.append_assoc, List.singleton_append]

/-- Nothing remains in the sum exactly if nothing remains in any of the reports. -/
theorem Adds.clean_iff (adds : Adds run reports) :
    run.counts.remaining = 0 ↔ ∀ report ∈ reports, report.counts.remaining = 0 := by
  have sum : run.counts.remaining = (reports.map fun report => report.counts.remaining).sum := by
    simp only [adds.counts, adds.units, totals, List.map_map]
    rfl
  rw [sum, List.sum_eq_zero_iff_forall_eq_nat]
  exact List.forall_mem_map

end RunReport

namespace Run

section General

variable {settings : Settings} {options : RunOptions} {runner : Runner} {host done : Host}
  {outcome : RunOutcome} {others : BuildUnit → Host → Host}

/-- The reports of the scans of a run, unit by unit. -/
def scanReports (others : BuildUnit → Host → Host) (settings : Settings) (options : RunOptions)
    (runner : Runner) (host : Host) (outcome : RunOutcome) : List UnitReport :=
  (Batches.scanBatch (scanBeside others (plan settings options runner outcome.root)
    (cache? settings host outcome.root)) host (outcome.schedule.order.take outcome.processed)).1

/-- What a run tells of its units. -/
structure Tells (others : BuildUnit → Host → Host) (settings : Settings) (options : RunOptions)
    (runner : Runner) (host : Host) (outcome : RunOutcome) : Prop where
  scheduled : outcome.schedule = scheduleOf settings host outcome.root
  listed : outcome.report.units
    = (scanReports others settings options runner host outcome).map UnitReport.summary
  /-- The counts of the outcome are those that a machine comes to in its words. -/
  counted : ∀ overflow, (RunReport.ofUnitsIn overflow
      (scanReports others settings options runner host outcome)).map RunReport.counts
    = some outcome.report.counts
  /-- The document and the exit status agree. -/
  status : ∀ runId generatedAt version durationMs,
    (outcome.document options runId generatedAt version durationMs).status = .success
      ↔ outcome.exitStatus = 0
  clean : outcome.exitStatus = 0
    ↔ ∀ report ∈ scanReports others settings options runner host outcome,
        report.counts.remaining = 0
  whole : outcome.cancelled = false → outcome.processed = outcome.schedule.order.length
  stopped : outcome.cancelled = true →
    0 < outcome.processed ∧ outcome.processed < outcome.schedule.order.length
      ∧ "run cancelled after " ++ Text.decimalText outcome.processed ++ " of "
          ++ Text.decimalText outcome.schedule.order.length ++ " unit(s)" ∈ outcome.report.notes

theorem success_iff_exitStatus (outcome : RunOutcome) (runId generatedAt version : String)
    (durationMs : Nat) :
    (outcome.document options runId generatedAt version durationMs).status = .success
      ↔ outcome.exitStatus = 0 := by
  rw [RunOutcome.document, RunReport.status, RunOutcome.exitStatus]
  by_cases clean : outcome.report.isClean = true
  · rw [if_pos clean, if_pos clean]
    exact iff_of_true rfl rfl
  · rw [if_neg clean, if_neg clean]
    exact iff_of_false RunStatus.noConfusion (by decide)

/-- A run that was stopped before its first batch has no outcome. -/
theorem scanAmid_began (ran : scanAmid others settings options runner host = .ok (outcome, done))
    (cancelled : outcome.cancelled = true) : 0 < outcome.processed := by
  rw [scanAmid] at ran
  split at ran
  · cases ran
  · rename_i workspace _
    dsimp only at ran
    generalize scanAllAmid others settings options runner host workspace.root
      (scheduleOf settings host workspace.root) = result at ran
    split at ran
    · cases ran
    · split at ran
      · cases ran
      · rename_i begun
        obtain ⟨rfl, rfl⟩ := Prod.mk.inj (Except.ok.inj ran)
        apply Nat.pos_of_ne_zero
        intro none'
        exact begun (by rw [Bool.and_eq_true, beq_iff_eq]; exact ⟨cancelled, none'⟩)

theorem stop_noted {root : Path} {schedule : Schedule} {progress : Progress}
    (cancelled : progress.cancelled = true) :
    "run cancelled after " ++ Text.decimalText progress.processed ++ " of "
        ++ Text.decimalText schedule.order.length ++ " unit(s)"
      ∈ (outcomeOf root schedule progress).report.notes := by
  rw [outcomeOf, RunReport.addNotes_notes, notes, if_pos cancelled]
  apply List.mem_append_right
  exact List.mem_append_right _ List.mem_cons_self

/-- A run counts as cancelled exactly if units are left. -/
theorem scanAllAmid_cancelled_iff (others : BuildUnit → Host → Host) (settings : Settings)
    (options : RunOptions) (runner : Runner) (host : Host) (root : Path) (schedule : Schedule) :
    (scanAllAmid others settings options runner host root schedule).1.cancelled = true ↔
      (scanAllAmid others settings options runner host root schedule).1.processed
        < schedule.order.length :=
  Batches.run_cancelled_iff Host.cancelled
    (scanBeside others (plan settings options runner root) (cache? settings host root))
    (if settings.execution.parallel then some (settings.execution.workers host.workers) else none)
    host schedule.order

/-- Whatever happens meanwhile and whenever it is stopped, a run is successful exactly if nothing remains
in the units that it scanned: all units of the schedule, or those before the stop. A cache may hold
counts whose sums fit no word; low words of zero would tell of success where something remains. -/
theorem success_covers_scanned
    (ran : scanAmid others settings options runner host = .ok (outcome, done))
    (fits : outcome.report.counts.fits = true) :
    Tells others settings options runner host outcome := by
  have began := scanAmid_began ran
  have made := scanAmid_ok ran
  have scheduled : outcome.schedule = scheduleOf settings host outcome.root :=
    (congrArg RunOutcome.schedule made).trans (schedule_outcomeOf _ _ _)
  obtain ⟨first, started, report, processed⟩ := scanAllAmid_scanned others settings options runner
    host outcome.root (scheduleOf settings host outcome.root)
  have stops := scanAllAmid_cancelled_iff others settings options runner host outcome.root
    (scheduleOf settings host outcome.root)
  rw [← scheduled] at made started report processed stops
  generalize (scanAllAmid others settings options runner host outcome.root outcome.schedule).1
    = progress at made report processed stops
  have came : outcome.processed = progress.processed := congrArg RunOutcome.processed made
  have halted : outcome.cancelled = progress.cancelled := congrArg RunOutcome.cancelled made
  have noted : outcome.report = (notes outcome.schedule progress).foldl RunReport.addNote
      progress.report := congrArg RunOutcome.report made
  -- the units that were scanned are those that the outcome counts
  have scanned : scanReports others settings options runner host outcome
      = (Batches.scanBatch (scanBeside others (plan settings options runner outcome.root)
          (cache? settings host outcome.root)) host first).1 := by
    rw [scanReports, came, processed, ← List.prefix_iff_eq_take.mp started]
  rw [← scanned] at report
  have adds := RunReport.adds_ofUnits (scanReports others settings options runner host outcome)
  rw [← report] at adds
  obtain ⟨counts, units, _⟩ :=
    RunReport.addNotes_counts (notes outcome.schedule progress) progress.report
  rw [← noted] at counts units
  rw [← came, ← halted] at stops
  constructor
  case scheduled => exact scheduled
  case listed => rw [units, adds.units]
  case counted =>
      intro overflow
      rw [counts, report] at fits ⊢
      rw [RunReport.ofUnitsIn_eq, RunReport.inWords_of_fits fits, Option.map_some]
  case status => exact success_iff_exitStatus outcome
  case clean => rw [exitStatus_zero, counts, adds.clean_iff]
  case whole =>
      intro uncancelled
      have short : outcome.processed ≤ outcome.schedule.order.length := by
        rw [came, processed]
        exact started.length_le
      rw [uncancelled, Bool.false_eq_true, false_iff] at stops
      omega
  case stopped =>
      intro cancelled
      refine ⟨began cancelled, stops.mp cancelled, ?_⟩
      rw [made]
      exact stop_noted (halted ▸ cancelled)

end General

/-! The first of two units is all right, and a stop is asked for while it is checked. The other one,
which is not all right, is not scanned any more. -/
namespace Stopped

def settings : Settings :=
  { Detour.settings with
    cache := ⟨false, false, none⟩
    execution := ⟨false, none⟩ }

def runner : Runner := fun invocation host =>
  if invocation.directory = Detour.member.path then
    (.completed true (some 0) "", { host with cancelled := true })
  else (.completed false (some 2) "a.ts(1,1): error TS1: wrong", host)

def ran : Except Failure (RunOutcome × Host) :=
  scan settings Detour.options runner (Detour.host false)

theorem ran_seen : ran.toOption.map (fun (outcome, _) =>
    (outcome.exitStatus, outcome.processed, outcome.schedule.order.length, outcome.cancelled,
      outcome.report.counts.fits))
      = some (0, 1, 2, true, true) := by
  decide +kernel

theorem ran_ok : ∃ outcome done,
    scan settings Detour.options runner (Detour.host false) = .ok (outcome, done)
      ∧ outcome.exitStatus = 0 ∧ outcome.processed = 1 ∧ outcome.schedule.order.length = 2
      ∧ outcome.cancelled = true ∧ outcome.report.counts.fits = true := by
  have seen := ran_seen
  rw [ran] at seen
  cases scanned : scan settings Detour.options runner (Detour.host false) with
  | error failure =>
      rw [scanned] at seen
      cases seen
  | ok result =>
      rw [scanned] at seen
      simp only [Except.toOption, Option.map_some, Option.some.injEq, Prod.mk.injEq] at seen
      exact ⟨result.1, result.2, rfl, seen⟩

end Stopped

theorem success_covers_scanned_stopped : ∃ outcome done,
    scanAmid (fun _ host => host) Stopped.settings Detour.options Stopped.runner (Detour.host false)
        = .ok (outcome, done)
      ∧ outcome.report.counts.fits = true
      ∧ outcome.exitStatus = 0 ∧ outcome.processed = 1 ∧ outcome.schedule.order.length = 2
      ∧ Tells (fun _ host => host) Stopped.settings Detour.options Stopped.runner (Detour.host false)
          outcome := by
  obtain ⟨outcome, done, ran, success, processed, order, _, fits⟩ := Stopped.ran_ok
  rw [← scanAmid_alone] at ran
  exact ⟨outcome, done, ran, fits, success, processed, order, success_covers_scanned ran fits⟩

/-- Success does not say that all units were scanned. -/
theorem success_leaves_units : ¬ ∀ (settings : Settings) (options : RunOptions) (runner : Runner)
    (host done : Host) (outcome : RunOutcome),
    scan settings options runner host = .ok (outcome, done) → outcome.exitStatus = 0 →
    outcome.processed = outcome.schedule.order.length
      ∧ ∀ report ∈ scanReports (fun _ host => host) settings options runner host outcome,
          report.counts.remaining = 0 := by
  intro claim
  obtain ⟨outcome, done, ran, success, processed, order, _⟩ := Stopped.ran_ok
  have whole := (claim _ _ _ _ _ _ ran success).1
  rw [processed, order] at whole
  exact absurd whole (by decide)

end Run
end MonorepoCheck
