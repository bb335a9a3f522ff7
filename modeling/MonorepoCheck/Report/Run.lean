import MonorepoCheck.Report.Unit

/-!
The report on a whole run: the sum of the reports on its units.
-/
namespace MonorepoCheck

/-- The counts of one unit, as the report on the run lists them. -/
structure UnitSummary where
  unit : String
  counts : Counts
  fromCache : Bool
  deriving DecidableEq, Repr, Inhabited

def UnitReport.summary (report : UnitReport) : UnitSummary :=
  ⟨report.unit, report.counts, report.fromCache⟩

structure RunReport where
  counts : Counts
  findings : Findings
  units : List UnitSummary
  notes : List String
  deriving DecidableEq, Repr, Inhabited

namespace RunReport

def empty : RunReport := ⟨.zero, .empty, [], []⟩

/-- Adds the report on one unit: counts add up, and diagnostics of a file that another unit already
reported on come after those. The counts are exact; `mergeIn` adds words. -/
def merge (run : RunReport) (report : UnitReport) : RunReport where
  counts := run.counts.add report.counts
  findings := report.findings.groups.foldl
    (fun findings group => findings.append group.1 group.2) run.findings
  units := run.units ++ [report.summary]
  notes := run.notes ++ report.notes.map fun note => report.unit ++ ": " ++ note

def ofUnits (reports : List UnitReport) : RunReport := reports.foldl merge empty

/-- Adds the report on one unit as a machine does, word by word. -/
def mergeIn (overflow : Overflow) (run : RunReport) (report : UnitReport) : Option RunReport :=
  ((run.counts.add report.counts).inWords overflow).map fun counts =>
    { run.merge report with counts := counts }

def ofUnitsIn (overflow : Overflow) (reports : List UnitReport) : Option RunReport :=
  reports.foldlM (mergeIn overflow) empty

/-- A report as a machine has it that adds words. -/
def inWords (run : RunReport) (overflow : Overflow) : Option RunReport :=
  (run.counts.inWords overflow).map fun counts => { run with counts := counts }

def isClean (run : RunReport) : Bool := run.counts.remaining == 0

def addNote (run : RunReport) (note : String) : RunReport :=
  { run with notes := run.notes ++ [note] }

end RunReport
end MonorepoCheck
