import MonorepoCheck.Proofs.Report.Accounting
import MonorepoCheck.Proofs.Scan.Collected

/-!
What a scan tells of a fix. Where the unit could be checked again, the report lists what was found
then, and its counts make up for what the fix resolved and brought in. Where nothing tells what the
fix did, the report stands as it would without one.
-/
namespace MonorepoCheck

/-- What is told of a fix that brought in diagnostics. -/
def RemedyOutcome.introducedNote (count : Nat) : String :=
  "remediation introduced " ++ Text.decimalText count ++ " new diagnostic(s)"

/-- A report that lists these diagnostics by their files. -/
structure UnitReport.Shows (report : UnitReport) (found : List Diagnostic) (counts : Counts) :
    Prop where
  listed : report.findings.Groups found
  counted : report.counts = counts

namespace ScanPlan

variable {plan : ScanPlan} {cache : Option Cache} {host : Host} {unit : BuildUnit}
  {before after : List Diagnostic}

/-- The machine after a fix. -/
def fixedHost (plan : ScanPlan) (host : Host) (fix : Invocation) : Host :=
  (host.run plan.runner fix).2

/-- A fix that went through, after which the unit was checked again and `after` was found. -/
structure Rescanned (plan : ScanPlan) (host : Host) (unit : BuildUnit) (before : List Diagnostic)
    (fix : Invocation) (after : List Diagnostic) : Prop where
  runs : plan.Runs unit before fix
  went : (host.run plan.runner fix).1.succeeded = true
  rescans : plan.settings.remedy.rescan = true
  whole : (plan.collect (plan.fixedHost host fix) unit).1.degraded = none
  found : after = plan.accepted (plan.fixedHost host fix) unit

/-- The ways in which nothing comes to be known of what a fix did. -/
inductive Unmeasured (plan : ScanPlan) (host : Host) (unit : BuildUnit) (before : List Diagnostic) :
    Prop where
  | needless (nothing : plan.level = .none ∨ before = [])
  | announced (dry : plan.dryRun = true)
  | failed {fix : Invocation} {code : Option Int} {output : String}
      (runs : plan.Runs unit before fix)
      (ended : (host.run plan.runner fix).1 = .completed false code output)
  | timedOut {fix : Invocation} {milliseconds : Nat} (runs : plan.Runs unit before fix)
      (ended : (host.run plan.runner fix).1 = .timedOut milliseconds)
  | notStarted {fix : Invocation} {reason : String} (runs : plan.Runs unit before fix)
      (ended : (host.run plan.runner fix).1 = .failedToStart reason)
  | degraded {fix : Invocation} {reason : String} (runs : plan.Runs unit before fix)
      (went : (host.run plan.runner fix).1.succeeded = true)
      (rescans : plan.settings.remedy.rescan = true)
      (unable : (plan.collect (plan.fixedHost host fix) unit).1.degraded = some reason)

theorem applyRemedy_rescanned {fix : Invocation}
    (rescanned : plan.Rescanned host unit before fix after) :
    (plan.applyRemedy host unit before).1 = .measured before.length ⟨after, none⟩ := by
  have collected : (plan.collect (host.run plan.runner fix).2 unit).1 = ⟨after, none⟩ := by
    rw [rescanned.found, ← collect_found, ← rescanned.whole]
    rfl
  obtain ⟨commands, course, -⟩ := plan.applyRemedy_course host unit before
  rcases course.of_runs rescanned.runs with ⟨failed, -⟩ | ⟨-, blind, -⟩ | ⟨-, -, -, measured⟩
  · exact absurd (failed.symm.trans rescanned.went) (by decide)
  · exact absurd (blind.symm.trans rescanned.rescans) (by decide)
  · rw [measured, collected]

/-- A fix that went through is not measured only where the unit could not be checked again. -/
theorem Unmeasured.unable {fix : Invocation} (unmeasured : plan.Unmeasured host unit before)
    (runs : plan.Runs unit before fix) (went : (host.run plan.runner fix).1.succeeded = true) :
    plan.settings.remedy.rescan = true
      ∧ ∃ reason, (plan.collect (plan.fixedHost host fix) unit).1.degraded = some reason := by
  have failed {outcome : Outcome} {other : Invocation} (others : plan.Runs unit before other)
      (ended : (host.run plan.runner other).1 = outcome) (unsuccessful : outcome.succeeded = false) :
      False := by
    rw [runs.unique others, ended, unsuccessful] at went
    cases went
  cases unmeasured with
  | needless nothing =>
      rcases nothing with idle | none'
      · exact absurd idle runs.level
      · exact absurd none' runs.found
  | announced dry => exact absurd (dry.symm.trans runs.real) (by decide)
  | failed others ended => exact (failed others ended rfl).elim
  | timedOut others ended => exact (failed others ended rfl).elim
  | notStarted others ended => exact (failed others ended rfl).elim
  | degraded others _ rescans unable =>
      rw [runs.unique others]
      exact ⟨rescans, _, unable⟩

/-- Where nothing tells what a fix did, it is taken to have done nothing. -/
theorem applyRemedy_unmeasured (unmeasured : plan.Unmeasured host unit before) :
    ∃ notes, (plan.applyRemedy host unit before).1 = .idle notes := by
  obtain ⟨commands, course, -⟩ := plan.applyRemedy_course host unit before
  generalize (plan.applyRemedy host unit before).1 = remedy at course ⊢
  cases course with
  | needless => exact ⟨_, rfl⟩
  | announced => exact ⟨_, rfl⟩
  | failed => exact ⟨_, rfl⟩
  | guessed runs went blind =>
      obtain ⟨rescans, -⟩ := unmeasured.unable runs went
      exact absurd (blind.symm.trans rescans) (by decide)
  | measured runs went _ =>
      obtain ⟨-, reason, unable⟩ := unmeasured.unable runs went
      rw [fixedHost] at unable
      rw [RemedyOutcome.measured, unable]
      exact ⟨_, rfl⟩

theorem report_idle (unit : BuildUnit) (collection : Collection) (notes : List String) :
    (report unit collection (.idle notes)).Shows collection.found
      ⟨collection.found.length, 0, collection.found.length⟩ where
  listed := Findings.groups_ofList collection.found
  counted := by simp [report, RemedyOutcome.idle, UnitReport.ofDiagnostics, UnitReport.markFixed]

/-- The counts of a report after a second collection: the applier's own difference is what the
report counts as fixed. -/
theorem report_measured (unit : BuildUnit) (before after : List Diagnostic) :
    (report unit ⟨before, none⟩ (.measured before.length ⟨after, none⟩)).Shows after
      ⟨max before.length after.length, before.length - after.length, after.length⟩ where
  listed := Findings.groups_ofList after
  counted := by
    have fixed : max before.length after.length - after.length = before.length - after.length := by
      omega
    simp [report, RemedyOutcome.measured, UnitReport.ofDiagnostics, UnitReport.afterRescan, fixed]

/-- The books of a scan that no kept report stands in for. Where a fix went through and the unit was
checked again, the report lists exactly what was found then; the total is the larger of both numbers,
and what the fix brought in is told in a note. Where nothing tells what a fix did, the report lists
exactly what was found at first, and nothing of it counts as fixed. -/
theorem remedy_accounted (missed : plan.keptReport? cache host unit = none) :
    let before := plan.accepted host unit
    let checked := (plan.collect host unit).2
    let remedy := (plan.applyRemedy checked unit before).1
    let report := (plan.scan cache host unit).1
    (∀ fix after, plan.Rescanned checked unit before fix after →
      report.Shows after
          ⟨max before.length after.length, before.length - after.length, after.length⟩
        ∧ report.counts.fixed = remedy.fixed
        ∧ report.notes = if before.length < after.length
            then [RemedyOutcome.introducedNote (after.length - before.length)] else [])
    ∧ (plan.Unmeasured checked unit before →
      report.Shows before ⟨before.length, 0, before.length⟩ ∧ remedy.fixed = 0) := by
  intro before checked remedy report
  have made : report = ScanPlan.report unit (plan.collect host unit).1 remedy := by
    have fresh : report = ScanPlan.report unit (plan.collect host unit).1
        (plan.applyRemedy checked unit (plan.collect host unit).1.found).1 := scan_missed missed
    rw [collect_found] at fresh
    exact fresh
  constructor
  · intro fix after rescanned
    have measured : remedy = .measured before.length ⟨after, none⟩ :=
      applyRemedy_rescanned rescanned
    have shows := report_measured unit before after
    rw [made, collect_whole rescanned.runs.found, measured]
    exact ⟨shows, congrArg Counts.fixed shows.counted, rfl⟩
  · intro unmeasured
    obtain ⟨notes, idle⟩ : ∃ notes, remedy = .idle notes := applyRemedy_unmeasured unmeasured
    have shows := report_idle unit (plan.collect host unit).1 notes
    rw [collect_found] at shows
    rw [made, idle]
    exact ⟨shows, rfl⟩

end ScanPlan

/-! A unit whose fix takes one diagnostic away and brings in two, one of which the filter accepts. -/
namespace Remedied

def unit : BuildUnit := ⟨⟨"/w/a"⟩, "a", ⟨"/w/a/t.json"⟩, []⟩

/-- What the checker prints before the fix and after it. -/
def output (fixed : Bool) : String :=
  if fixed then "b.ts(4,1): error TS2: two\na.ts(9,1): error TS3: three\nb.ts(1,2): error TS2: one\n"
  else "a.ts(1,2): error TS1: no\nb.ts(1,2): error TS2: one\n"

/-- The fix always goes through. The checker looks whether it was run. -/
def runner : Runner := fun invocation host =>
  if invocation.command = Settings.default.remedy.shallow then (.completed true (some 0) "", host)
  else
    let fixed := host.history.any fun earlier =>
      earlier.command = Settings.default.remedy.shallow
    (.completed false (some 2) (output fixed), host)

def plan : ScanPlan :=
  ⟨⟨"/w"⟩, { Settings.default with attachSnippets := false, attachHints := false }, ⟨["ts2"], []⟩,
    .shallow, false, runner⟩

def host : Host where
  files := ⟨[(["w"], .directory), (["w", "a"], .directory),
    (["w", "a", "t.json"], .file "\x7b\x7d".toUTF8 ⟨5, 0⟩)]⟩
  now := ⟨10, 0⟩

def fix : Invocation := ⟨Settings.default.remedy.shallow, unit.path, 600⟩

def after : List Diagnostic :=
  [⟨"a/b.ts", 4, 1, "TS2", "two", none, none⟩, ⟨"a/b.ts", 1, 2, "TS2", "one", none, none⟩]

theorem accepted_first : plan.accepted host unit = [⟨"a/b.ts", 1, 2, "TS2", "one", none, none⟩] := by
  decide +kernel

theorem rescanned : plan.Rescanned (plan.collect host unit).2 unit (plan.accepted host unit) fix
    after where
  runs := ⟨by decide +kernel, by rw [accepted_first]; exact List.cons_ne_nil _ _, rfl⟩
  went := by decide +kernel
  rescans := rfl
  whole := by decide +kernel
  found := by decide +kernel

/-- What the fix brought in counts towards the total. -/
theorem introduced_counted :
    plan.keptReport? none host unit = none
      ∧ (plan.scan none host unit).1.counts = ⟨2, 0, 2⟩
      ∧ (plan.scan none host unit).1.findings.get "a/b.ts" = after
      ∧ (plan.scan none host unit).1.notes = ["remediation introduced 1 new diagnostic(s)"] := by
  have missed : plan.keptReport? none host unit = none := rfl
  obtain ⟨measured, -⟩ := ScanPlan.remedy_accounted missed
  obtain ⟨shows, -, notes⟩ := measured fix after rescanned
  rw [accepted_first] at shows notes
  exact ⟨missed, shows.counted, (shows.listed.each "a/b.ts").trans (by decide), notes⟩

end Remedied

end MonorepoCheck
