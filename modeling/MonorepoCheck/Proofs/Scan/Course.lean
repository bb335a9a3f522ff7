import MonorepoCheck.Scan.Remedy

/-!
What a scan asks of the machine. Every collection and every fix comes to a list of commands, and
leaves the machine as these commands leave it. A fix can go in five ways.
-/
namespace MonorepoCheck

/-- The machine after commands that are run one after another. -/
def Host.runAll (host : Host) (runner : Runner) (commands : List Invocation) : Host :=
  commands.foldl (fun host invocation => (host.run runner invocation).2) host

namespace Host

variable {runner : Runner} {commands : List Invocation}

theorem runAll_append (host : Host) (runner : Runner) (commands more : List Invocation) :
    host.runAll runner (commands ++ more) = (host.runAll runner commands).runAll runner more :=
  List.foldl_append

/-- What every command preserves, all of them together preserve. -/
theorem runAll_preserves {holds : Host → Prop}
    (runs : ∀ invocation host, holds host → holds (host.run runner invocation).2)
    (commands : List Invocation) {host : Host} (start : holds host) :
    holds (host.runAll runner commands) := by
  induction commands generalizing host with
  | nil => exact start
  | cons invocation rest ih => exact ih (runs invocation host start)

/-- The commands are noted down in their order, as long as none of them forges the notes. -/
theorem runAll_history (honest : ∀ invocation host, (runner invocation host).2.history = host.history)
    (commands : List Invocation) (host : Host) :
    (host.runAll runner commands).history = host.history ++ commands := by
  induction commands generalizing host with
  | nil => exact (List.append_nil _).symm
  | cons invocation rest ih =>
      rw [runAll, List.foldl_cons, ← runAll, ih, run, honest, List.append_assoc]
      rfl

end Host

namespace ScanPlan

variable {plan : ScanPlan} {host : Host} {unit : BuildUnit} {before : List Diagnostic}

/-- The commands of a collection. Without its build configuration a unit is not checked. -/
def checks (plan : ScanPlan) (host : Host) (unit : BuildUnit) : List Invocation :=
  if host.isFileAt unit.configuration then [plan.checkerInvocation unit] else []

theorem collect_host (plan : ScanPlan) (host : Host) (unit : BuildUnit) :
    (plan.collect host unit).2 = host.runAll plan.runner (plan.checks host unit) := by
  rw [collect, checks]
  split <;> rfl

theorem fixInvocation?_eq_none_iff : plan.fixInvocation? unit = none ↔ plan.level = .none := by
  rw [fixInvocation?, Option.map_eq_none_iff]
  cases plan.level <;> simp [RemedySettings.command?]

/-- A fix that the plan runs on a unit with these diagnostics. -/
structure Runs (plan : ScanPlan) (unit : BuildUnit) (before : List Diagnostic) (fix : Invocation) :
    Prop where
  fixes : plan.fixInvocation? unit = some fix
  found : before ≠ []
  real : plan.dryRun = false

theorem Runs.level {fix : Invocation} (runs : plan.Runs unit before fix) : plan.level ≠ .none := by
  intro idle
  have none' : plan.fixInvocation? unit = none := fixInvocation?_eq_none_iff.mpr idle
  rw [runs.fixes] at none'
  cases none'

/-- The ways in which a fix can go, by the commands that it takes and what it comes to. -/
inductive Course (plan : ScanPlan) (host : Host) (unit : BuildUnit) (before : List Diagnostic) :
    List Invocation → RemedyOutcome → Prop where
  | needless (nothing : plan.level = .none ∨ before = []) :
      Course plan host unit before [] (.idle [])
  | announced {fix : Invocation} (fixes : plan.fixInvocation? unit = some fix)
      (found : before ≠ []) (dry : plan.dryRun = true) :
      Course plan host unit before [] (.idle [plan.dryRunNote unit fix])
  | failed {fix : Invocation} (runs : plan.Runs unit before fix)
      (failed : (host.run plan.runner fix).1.succeeded = false) :
      Course plan host unit before [fix] (.idle [failureNote fix (host.run plan.runner fix).1])
  | guessed {fix : Invocation} (runs : plan.Runs unit before fix)
      (went : (host.run plan.runner fix).1.succeeded = true)
      (blind : plan.settings.remedy.rescan = false) :
      Course plan host unit before [fix] (.estimated plan.level before.length)
  | measured {fix : Invocation} (runs : plan.Runs unit before fix)
      (went : (host.run plan.runner fix).1.succeeded = true)
      (rescans : plan.settings.remedy.rescan = true) :
      Course plan host unit before (fix :: plan.checks (host.run plan.runner fix).2 unit)
        (.measured before.length (plan.collect (host.run plan.runner fix).2 unit).1)

theorem Runs.unique {fix other : Invocation} (runs : plan.Runs unit before fix)
    (others : plan.Runs unit before other) : fix = other :=
  Option.some.inj (runs.fixes.symm.trans others.fixes)

theorem Course.of_runs {fix : Invocation} {commands : List Invocation} {remedy : RemedyOutcome}
    (course : plan.Course host unit before commands remedy) (runs : plan.Runs unit before fix) :
    ((host.run plan.runner fix).1.succeeded = false ∧ commands = [fix]
        ∧ remedy = .idle [failureNote fix (host.run plan.runner fix).1])
    ∨ ((host.run plan.runner fix).1.succeeded = true ∧ plan.settings.remedy.rescan = false
        ∧ commands = [fix] ∧ remedy = .estimated plan.level before.length)
    ∨ ((host.run plan.runner fix).1.succeeded = true ∧ plan.settings.remedy.rescan = true
        ∧ commands = fix :: plan.checks (host.run plan.runner fix).2 unit
        ∧ remedy = .measured before.length (plan.collect (host.run plan.runner fix).2 unit).1) := by
  cases course with
  | needless nothing =>
      rcases nothing with idle | none'
      · exact absurd idle runs.level
      · exact absurd none' runs.found
  | announced _ _ dry => exact absurd (dry.symm.trans runs.real) (by decide)
  | failed others failed =>
      obtain rfl := runs.unique others
      exact .inl ⟨failed, rfl, rfl⟩
  | guessed others went blind =>
      obtain rfl := runs.unique others
      exact .inr (.inl ⟨went, blind, rfl, rfl⟩)
  | measured others went rescans =>
      obtain rfl := runs.unique others
      exact .inr (.inr ⟨went, rescans, rfl, rfl⟩)

theorem Course.of_idle {commands : List Invocation} {remedy : RemedyOutcome}
    (course : plan.Course host unit before commands remedy)
    (idle : ¬ ∃ fix, plan.Runs unit before fix) : commands = [] := by
  cases course with
  | needless => rfl
  | announced => rfl
  | failed runs => exact absurd ⟨_, runs⟩ idle
  | guessed runs => exact absurd ⟨_, runs⟩ idle
  | measured runs => exact absurd ⟨_, runs⟩ idle

/-- A fix goes in one of these ways, and leaves the machine as its commands do. -/
theorem applyRemedy_course (plan : ScanPlan) (host : Host) (unit : BuildUnit)
    (before : List Diagnostic) : ∃ commands,
      plan.Course host unit before commands (plan.applyRemedy host unit before).1
        ∧ (plan.applyRemedy host unit before).2 = host.runAll plan.runner commands := by
  rw [applyRemedy]
  cases fixes : plan.fixInvocation? unit with
  | none => exact ⟨[], .needless (.inl (fixInvocation?_eq_none_iff.mp fixes)), rfl⟩
  | some fix =>
      dsimp only
      split
      · rename_i none'
        exact ⟨[], .needless (.inr (List.isEmpty_iff.mp none')), rfl⟩
      · rename_i some'
        have found : before ≠ [] := fun none' => some' (List.isEmpty_iff.mpr none')
        split
        · rename_i dry
          exact ⟨[], .announced fixes found dry, rfl⟩
        · rename_i real
          have runs : plan.Runs unit before fix := ⟨fixes, found, Bool.eq_false_iff.mpr real⟩
          cases went : (host.run plan.runner fix).1.succeeded with
          | false => exact ⟨[fix], .failed runs went, rfl⟩
          | true =>
              cases rescans : plan.settings.remedy.rescan with
              | false => exact ⟨[fix], .guessed runs went rescans, rfl⟩
              | true =>
                  refine ⟨_, .measured runs went rescans, ?_⟩
                  simp only [Bool.not_true, Bool.false_eq_true, if_false]
                  exact plan.collect_host (host.run plan.runner fix).2 unit

end ScanPlan
end MonorepoCheck
