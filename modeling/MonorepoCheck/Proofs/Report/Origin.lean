import MonorepoCheck.Report.Run

/-!
Reports up to whether they come from the cache. Merging does not look at that.
-/
namespace MonorepoCheck

/-- The report as if it were made anew. -/
def UnitReport.withoutOrigin (report : UnitReport) : UnitReport := { report with fromCache := false }

def UnitSummary.withoutOrigin (summary : UnitSummary) : UnitSummary :=
  { summary with fromCache := false }

namespace RunReport

/-- The report of a run as if every unit had been scanned anew. -/
def withoutOrigins (run : RunReport) : RunReport :=
  { run with units := run.units.map UnitSummary.withoutOrigin }

theorem counts_withoutOrigins (run : RunReport) : run.withoutOrigins.counts = run.counts := rfl

theorem merge_withoutOrigin (run : RunReport) (report : UnitReport) :
    (run.merge report).withoutOrigins = run.withoutOrigins.merge report.withoutOrigin := by
  simp [withoutOrigins, merge, UnitReport.withoutOrigin, UnitReport.summary,
    UnitSummary.withoutOrigin]

theorem foldl_merge_withoutOrigins (reports : List UnitReport) (run : RunReport) :
    (reports.foldl merge run).withoutOrigins
      = (reports.map UnitReport.withoutOrigin).foldl merge run.withoutOrigins := by
  induction reports generalizing run with
  | nil => rfl
  | cons report reports ih => rw [List.foldl_cons, ih, merge_withoutOrigin, List.map_cons,
      List.foldl_cons]

theorem addNotes_withoutOrigins (notes : List String) (run : RunReport) :
    (notes.foldl addNote run).withoutOrigins = notes.foldl addNote run.withoutOrigins := by
  induction notes generalizing run with
  | nil => rfl
  | cons note notes ih => rw [List.foldl_cons, ih]; rfl

/-- The counts of the units that a report lists. -/
def unitCounts (run : RunReport) : List Counts := run.units.map UnitSummary.counts

theorem unitCounts_withoutOrigins (run : RunReport) :
    run.withoutOrigins.unitCounts = run.unitCounts := by
  simp [unitCounts, withoutOrigins, UnitSummary.withoutOrigin]

theorem unitCounts_ofUnits (reports : List UnitReport) :
    (ofUnits reports).unitCounts = reports.map UnitReport.counts := by
  suffices grown : ∀ run : RunReport,
      (reports.foldl merge run).unitCounts = run.unitCounts ++ reports.map UnitReport.counts from
    grown empty
  induction reports with
  | nil => intro run; simp
  | cons report reports ih =>
      intro run
      rw [List.foldl_cons, ih]
      simp [unitCounts, merge, UnitReport.summary]

theorem unitCounts_addNotes (notes : List String) (run : RunReport) :
    (notes.foldl addNote run).unitCounts = run.unitCounts := by
  induction notes generalizing run with
  | nil => rfl
  | cons note notes ih => rw [List.foldl_cons, ih]; rfl

end RunReport
end MonorepoCheck
