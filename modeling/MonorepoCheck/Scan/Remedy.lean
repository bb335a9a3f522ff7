import MonorepoCheck.Scan.Collect

/-!
Applying a fix to a unit and measuring what it did: by a second collection, or where those are
turned off by the share of the level.
-/
namespace MonorepoCheck

/-- What an attempt at a fix did. -/
structure RemedyOutcome where
  fixed : Nat
  /-- what a collection after the fix found -/
  remaining : Option (List Diagnostic)
  notes : List String
  deriving DecidableEq, Repr, Inhabited

namespace RemedyOutcome

/-- Nothing was done, or nothing is known of what was done. -/
def idle (notes : List String) : RemedyOutcome := ⟨0, none, notes⟩

/-- The fix was measured by its level's share. -/
def estimated (level : RemedyLevel) (before : Nat) : RemedyOutcome :=
  let fixed := level.estimate before
  ⟨fixed, none,
    ["fixed count estimated (" ++ Text.decimalText fixed ++ " of " ++ Text.decimalText before
      ++ ")"]⟩

/-- The fix was measured by a collection. One that could not be made says nothing about it. -/
def measured (before : Nat) (after : Collection) : RemedyOutcome :=
  match after.degraded with
  | some reason => idle ["post-fix rescan failed: " ++ reason]
  | none =>
    let left := after.found.length
    ⟨before - left, some after.found,
      if before < left then
        ["remediation introduced " ++ Text.decimalText (left - before) ++ " new diagnostic(s)"]
      else []⟩

end RemedyOutcome

namespace ScanPlan

def dryRunNote (plan : ScanPlan) (unit : BuildUnit) (fix : Invocation) : String :=
  "dry run: would run `" ++ fix.command.line ++ "` (" ++ plan.level.name ++ " remediation) in "
    ++ unit.name

def failureNote (fix : Invocation) (outcome : Outcome) : String :=
  "remediation `" ++ fix.command.line ++ "` " ++ outcome.describe

/-- Applies the fix of the plan to a unit with these diagnostics. Without a fix or a diagnostic
there is nothing to do. -/
def applyRemedy (plan : ScanPlan) (host : Host) (unit : BuildUnit) (before : List Diagnostic) :
    RemedyOutcome × Host :=
  match plan.fixInvocation? unit with
  | none => (.idle [], host)
  | some fix =>
    if before.isEmpty then (.idle [], host)
    else if plan.dryRun then (.idle [plan.dryRunNote unit fix], host)
    else
      let (outcome, host) := host.run plan.runner fix
      if !outcome.succeeded then (.idle [failureNote fix outcome], host)
      else if !plan.settings.remedy.rescan then (.estimated plan.level before.length, host)
      else
        let (after, host) := plan.collect host unit
        (.measured before.length after, host)

end ScanPlan
end MonorepoCheck
