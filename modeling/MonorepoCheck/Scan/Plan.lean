import MonorepoCheck.Diagnostic.Filter
import MonorepoCheck.Host
import MonorepoCheck.Settings.Basic
import MonorepoCheck.Unit.Basic

/-!
How the units of a workspace are scanned: with which checker, under which filter, with which fix,
and who runs the commands.
-/
namespace MonorepoCheck

structure ScanPlan where
  /-- the root of the workspace, from which files are named -/
  root : Path
  settings : Settings
  filter : Filter
  level : RemedyLevel
  /-- whether fixes are only announced -/
  dryRun : Bool
  runner : Runner

namespace ScanPlan

/-- The checker on one unit. -/
def checkerInvocation (plan : ScanPlan) (unit : BuildUnit) : Invocation where
  command := {
    program := plan.settings.checker.command.program
    arguments := plan.settings.checker.command.arguments.map
      (Text.replaceText Settings.configurationPlaceholder unit.configuration.text) }
  directory := unit.path
  timeoutSeconds := plan.settings.checker.timeoutSeconds

/-- The fix on one unit, unless the level fixes nothing. -/
def fixInvocation? (plan : ScanPlan) (unit : BuildUnit) : Option Invocation :=
  (plan.settings.remedy.command? plan.level).map fun command =>
    ⟨command, unit.path, plan.settings.remedy.timeoutSeconds⟩

/-- Whether a scan may change sources. -/
def modifiesSources (plan : ScanPlan) : Bool := plan.level != .none && !plan.dryRun

def boolText (value : Bool) : String := if value then "true" else "false"

/-- What a kept report has to have in common with a new one. -/
def fingerprint (plan : ScanPlan) : String :=
  plan.filter.fingerprint ++ ";fix=" ++ plan.level.name ++ ";dry_run=" ++ boolText plan.dryRun

end ScanPlan
end MonorepoCheck
