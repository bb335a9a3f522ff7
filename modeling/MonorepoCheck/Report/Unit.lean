import MonorepoCheck.Binary.Word
import MonorepoCheck.Report.Findings

/-!
What a scan found in one build unit, and how much of it a fix resolved.
-/
namespace MonorepoCheck

/-- How many diagnostics there were, how many are fixed and how many remain. -/
structure Counts where
  total : Nat
  fixed : Nat
  remaining : Nat
  deriving DecidableEq, Repr, Inhabited

namespace Counts

def zero : Counts := ⟨0, 0, 0⟩

/-- The sums themselves, however large. What a machine makes of them is told by `inWords`. -/
def add (a b : Counts) : Counts :=
  ⟨a.total + b.total, a.fixed + b.fixed, a.remaining + b.remaining⟩

/-- Whether all counts fit machine words. -/
def fits (counts : Counts) : Bool :=
  fitsWord counts.total && fitsWord counts.fixed && fitsWord counts.remaining

/-- The low words of the counts. -/
def wrapped (counts : Counts) : Counts :=
  ⟨counts.total % Nat.pow 2 64, counts.fixed % Nat.pow 2 64, counts.remaining % Nat.pow 2 64⟩

/-- The counts as a machine has them, unless it stops. -/
def inWords (counts : Counts) : Overflow → Option Counts
  | .wraps => some counts.wrapped
  | .stops => if counts.fits then some counts else none

end Counts

/-- The report on one unit. The unit is named from the root of the workspace; `.` is the root. -/
structure UnitReport where
  unit : String
  counts : Counts
  findings : Findings
  fromCache : Bool
  notes : List String
  deriving DecidableEq, Repr, Inhabited

namespace UnitReport

def empty : UnitReport := ⟨"", .zero, .empty, false, []⟩

/-- The report on what was found before any fix. -/
def ofDiagnostics (unit : String) (found : List Diagnostic) : UnitReport :=
  ⟨unit, ⟨found.length, 0, found.length⟩, .ofList found, false, []⟩

/-- Counts some of the diagnostics as fixed, at most all of them. -/
def markFixed (report : UnitReport) (fixed : Nat) : UnitReport :=
  let fixed := min fixed report.counts.total
  { report with counts := ⟨report.counts.total, fixed, report.counts.total - fixed⟩ }

/-- Takes over what a scan after the fix found. Diagnostics that the fix brought in count towards
the total. -/
def afterRescan (report : UnitReport) (found : List Diagnostic) : UnitReport :=
  let total := max report.counts.total found.length
  { report with
    counts := ⟨total, total - found.length, found.length⟩
    findings := .ofList found }

def diagnostics (report : UnitReport) : List Diagnostic := report.findings.toList

end UnitReport
end MonorepoCheck
