import MonorepoCheck.Report.Run

/-!
The document that a run leaves behind: the report with the circumstances of the run.
-/
namespace MonorepoCheck

/-- The circumstances of a run. -/
structure Circumstances where
  runId : String
  generatedAt : String
  version : String
  workspaceRoot : String
  durationMs : Nat
  remedy : String
  dryRun : Bool
  unitsDiscovered : Nat
  unitsScanned : Nat
  unitsFromCache : Nat
  cancelled : Bool
  deriving DecidableEq, Repr, Inhabited

inductive RunStatus where
  | success
  | diagnosticsRemaining
  deriving DecidableEq, Repr, Inhabited

namespace RunStatus

def name : RunStatus → String
  | success => "success"
  | diagnosticsRemaining => "diagnostics-remaining"

def ofName? (text : String) : Option RunStatus :=
  [success, diagnosticsRemaining].find? fun status => status.name == text

/-- One sentence on how the run ended. -/
def headline (status : RunStatus) (remaining : Nat) : String :=
  match status with
  | success => "Success: no diagnostics remain."
  | diagnosticsRemaining => Text.decimalText remaining ++ " diagnostic(s) remain."

end RunStatus

def RunReport.status (run : RunReport) : RunStatus :=
  if run.isClean then .success else .diagnosticsRemaining

structure Document where
  circumstances : Circumstances
  status : RunStatus
  report : RunReport
  deriving DecidableEq, Repr, Inhabited

end MonorepoCheck
