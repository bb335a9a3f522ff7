import MonorepoCheck.Scan.Plan

/-!
The fingerprint of a plan, although its front is free text, tells the level, the dry run and the
fingerprint of the filter.
-/
namespace MonorepoCheck.ScanPlan

/-- What the fingerprint of a plan has behind that of its filter. -/
def fingerprintEnding (level : RemedyLevel) (dryRun : Bool) : List Char :=
  (";fix=" ++ level.name ++ ";dry_run=" ++ boolText dryRun).toList

theorem fingerprint_toList (plan : ScanPlan) :
    plan.fingerprint.toList
      = plan.filter.fingerprint.toList ++ fingerprintEnding plan.level plan.dryRun := by
  simp [fingerprint, fingerprintEnding]

/-- No ending is the end of another one. -/
theorem fingerprintEnding_suffix {level other : RemedyLevel} {dryRun otherRun : Bool}
    (suffix : fingerprintEnding level dryRun <:+ fingerprintEnding other otherRun) :
    level = other ∧ dryRun = otherRun := by
  cases level <;> cases dryRun <;> cases other <;> cases otherRun <;>
    first
    | exact ⟨rfl, rfl⟩
    | exact absurd suffix (by decide)

theorem fingerprint_injective {plan other : ScanPlan} (same : plan.fingerprint = other.fingerprint) :
    plan.level = other.level ∧ plan.dryRun = other.dryRun
      ∧ plan.filter.fingerprint = other.filter.fingerprint := by
  have texts := congrArg String.toList same
  rw [fingerprint_toList, fingerprint_toList] at texts
  have first : fingerprintEnding plan.level plan.dryRun
      <:+ plan.filter.fingerprint.toList ++ fingerprintEnding plan.level plan.dryRun :=
    List.suffix_append _ _
  have second : fingerprintEnding other.level other.dryRun
      <:+ plan.filter.fingerprint.toList ++ fingerprintEnding plan.level plan.dryRun :=
    texts ▸ List.suffix_append _ _
  have ends : plan.level = other.level ∧ plan.dryRun = other.dryRun := by
    rcases List.suffix_or_suffix_of_suffix first second with shorter | longer
    · exact fingerprintEnding_suffix shorter
    · have swapped := fingerprintEnding_suffix longer
      exact ⟨swapped.1.symm, swapped.2.symm⟩
  rw [ends.1, ends.2] at texts
  exact ⟨ends.1, ends.2, String.toList_inj.mp (List.append_cancel_right texts)⟩

end MonorepoCheck.ScanPlan
