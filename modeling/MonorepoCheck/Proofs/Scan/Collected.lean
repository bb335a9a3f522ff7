import MonorepoCheck.Proofs.Diagnostic.CheckerLine
import MonorepoCheck.Proofs.Diagnostic.Fingerprint
import MonorepoCheck.Proofs.Report.Stored
import MonorepoCheck.Proofs.Scan.Unit

/-!
What a collection can hold. A degraded one holds no diagnostic and says the same under every plan;
what a whole one holds fits machine words, as long as the checker's output does.
-/
namespace MonorepoCheck

namespace Text

theorem lines_length_le (text : List Char) : (lines text).length ≤ text.length := by
  induction text using lines.induct with
  | case1 => simp [lines]
  | case2 rest ih => simpa [lines] using ih
  | case3 rest ih =>
      simp only [lines, List.length_cons]
      omega
  | case4 c rest _ _ none' ih => simp_all [lines]
  | case5 c rest _ _ line more some' ih =>
      simp_all [lines]
      omega

end Text

namespace CheckerLine

theorem position?_fits {digits : List Char} {n : Nat} (read : position? digits = some n) :
    fitsWord n = true := by
  have bounded : n ≤ 2 ^ 64 - 1 := (position?_iff.mp read).fits
  exact decide_eq_true (Nat.lt_of_le_of_lt bounded (by decide))

/-- The numbers of a line that was read fit machine words. -/
theorem read?_fits {text : List Char} {line : CheckerLine} (found : read? text = some line) :
    fitsWord line.line = true ∧ fitsWord line.column = true := by
  simp only [read?, Option.bind_eq_bind, Option.bind_eq_some_iff] at found
  obtain ⟨⟨file, tail⟩, _, lineNumber, first, column, second, made⟩ := found
  obtain rfl := Option.some.inj made
  exact ⟨position?_fits first, position?_fits second⟩

theorem readAll_length_le (output : List Char) : (readAll output).length ≤ output.length :=
  Nat.le_trans (List.length_filterMap_le read? _) (Text.lines_length_le output)

end CheckerLine

namespace Findings

theorem fits_modifyGroups {file : String} {change : List Diagnostic → List Diagnostic}
    {groups : List (String × List Diagnostic)}
    (small : ∀ group ∈ groups, group.2.all Diagnostic.fits = true)
    (changed : ∀ found : List Diagnostic, found.all Diagnostic.fits = true →
      (change found).all Diagnostic.fits = true) :
    ∀ group ∈ modifyGroups file change groups, group.2.all Diagnostic.fits = true := by
  induction groups with
  | nil =>
      intro group member
      obtain rfl := List.mem_singleton.mp member
      exact changed [] rfl
  | cons head rest ih =>
      have first := small head List.mem_cons_self
      have others : ∀ group ∈ rest, group.2.all Diagnostic.fits = true :=
        fun group member => small group (List.mem_cons_of_mem _ member)
      intro group member
      rw [modifyGroups] at member
      split at member
      · rcases List.mem_cons.mp member with rfl | old
        · exact changed [] rfl
        · exact small group old
      · split at member
        · rcases List.mem_cons.mp member with rfl | old
          · exact changed head.2 first
          · exact others group old
        · rcases List.mem_cons.mp member with rfl | old
          · exact first
          · exact ih others group old

/-- Grouping brings in no diagnostic. -/
theorem fits_ofList {found : List Diagnostic} (small : ∀ d ∈ found, d.fits = true) :
    (ofList found).fits = true := by
  suffices grown : ∀ start : Findings, start.fits = true →
      (found.foldl (fun findings d => findings.append d.file [d]) start).fits = true from
    grown empty rfl
  induction found with
  | nil => exact fun _ start => start
  | cons d found ih =>
      intro start small'
      rw [List.foldl_cons]
      apply ih fun other member => small other (List.mem_cons_of_mem _ member)
      apply List.all_eq_true.mpr
      apply fits_modifyGroups (List.all_eq_true.mp small')
      intro before fits
      rw [List.all_append, fits, List.all_cons, small d List.mem_cons_self]
      rfl

end Findings

namespace ScanPlan

variable {plan : ScanPlan} {host : Host} {unit : BuildUnit} {outcome : Outcome}

/-- The diagnostics that the lines of an outcome report, whatever the filter says. -/
def reported (plan : ScanPlan) (host : Host) (unit : BuildUnit) (outcome : Outcome) :
    List Diagnostic :=
  let lines := CheckerLine.readAll (outcome.output?.getD "").toList
  lines.map (plan.diagnostic host unit (spellings unit lines))

theorem collection_found (plan : ScanPlan) (host : Host) (unit : BuildUnit) (outcome : Outcome) :
    (plan.collection host unit outcome).found
      = (plan.reported host unit outcome).filter plan.filter.accepts := by
  cases outcome with
  | completed success code output => exact plan.filter.apply_eq_filter _
  | timedOut milliseconds => rfl
  | failedToStart reason => rfl

/-- A degraded collection holds nothing, and the outcome alone says why it is degraded. -/
theorem collection_degraded {reason : String}
    (degraded : (plan.collection host unit outcome).degraded = some reason)
    (other : ScanPlan) (elsewhere : Host) :
    other.collection elsewhere unit outcome = ⟨[], some reason⟩ := by
  cases outcome with
  | completed success code output =>
      simp only [collection] at degraded ⊢
      split at degraded
      · rename_i failed
        have unread := (Bool.and_eq_true_iff.mp failed).1
        rw [if_pos failed, ← degraded, List.isEmpty_iff.mp unread, List.map_nil,
          other.filter.apply_eq_filter, List.filter_nil]
      · cases degraded
  | timedOut milliseconds => exact congrArg (Collection.mk []) degraded
  | failedToStart reason => exact congrArg (Collection.mk []) degraded

theorem mem_found_fits {d : Diagnostic}
    (member : d ∈ (plan.collection host unit outcome).found) : d.fits = true := by
  rw [collection_found] at member
  obtain ⟨line, read, rfl⟩ := List.mem_map.mp (List.mem_of_mem_filter member)
  obtain ⟨text, _, found⟩ := List.mem_filterMap.mp read
  exact Bool.and_eq_true_iff.mpr (CheckerLine.read?_fits found)

theorem found_length_le : (plan.collection host unit outcome).found.length
    ≤ (outcome.output?.getD "").length := by
  rw [collection_found]
  calc ((plan.reported host unit outcome).filter plan.filter.accepts).length
      ≤ (plan.reported host unit outcome).length := List.length_filter_le _ _
    _ = (CheckerLine.readAll (outcome.output?.getD "").toList).length := List.length_map _
    _ ≤ (outcome.output?.getD "").length := CheckerLine.readAll_length_le _

theorem collect_of_file (present : host.isFileAt unit.configuration = true) :
    plan.collect host unit
      = (plan.collection (host.run plan.runner (plan.checkerInvocation unit)).2 unit
            (host.run plan.runner (plan.checkerInvocation unit)).1,
          (host.run plan.runner (plan.checkerInvocation unit)).2) := by
  rw [collect, if_pos present]

theorem collect_of_no_file (missing : host.isFileAt unit.configuration = false) :
    plan.collect host unit
      = (⟨[], some ("build configuration " ++ unit.configuration.text ++ " is missing")⟩, host) := by
  rw [collect, missing]
  rfl

/-- What the checker reports about a unit on this machine, as far as the filter accepts it. Without
its build configuration a unit is not checked. -/
def accepted (plan : ScanPlan) (host : Host) (unit : BuildUnit) : List Diagnostic :=
  if host.isFileAt unit.configuration then
    let (outcome, checked) := host.run plan.runner (plan.checkerInvocation unit)
    (plan.reported checked unit outcome).filter plan.filter.accepts
  else []

theorem collect_found (plan : ScanPlan) (host : Host) (unit : BuildUnit) :
    (plan.collect host unit).1.found = plan.accepted host unit := by
  rw [accepted]
  cases present : host.isFileAt unit.configuration with
  | true =>
      rw [collect_of_file present]
      exact plan.collection_found _ unit _
  | false =>
      rw [collect_of_no_file present]
      rfl

/-- Where something was found, the collection is whole. -/
theorem collect_whole (some' : plan.accepted host unit ≠ []) :
    (plan.collect host unit).1 = ⟨plan.accepted host unit, none⟩ := by
  rw [← collect_found] at some' ⊢
  cases unable : (plan.collect host unit).1.degraded with
  | none => rw [← unable]
  | some reason =>
      cases present : host.isFileAt unit.configuration with
      | true =>
          rw [collect_of_file present] at unable some'
          rw [collection_degraded unable plan] at some'
          exact absurd rfl some'
      | false =>
          rw [collect_of_no_file present] at some'
          exact absurd rfl some'

/-- A checker that says the same about a unit whenever it is asked, and no more than a machine can
hold. -/
structure Answers (plan : ScanPlan) (unit : BuildUnit) (reply : Outcome) : Prop where
  same : ∀ host, (plan.runner (plan.checkerInvocation unit) host).1 = reply
  short : (reply.output?.getD "").length < Nat.pow 2 64

/-- The collection of a checker that can be asked again. -/
theorem collect_fst {reply : Outcome} (answers : plan.Answers unit reply)
    (present : host.isFileAt unit.configuration = true) :
    (plan.collect host unit).1 = plan.collection (plan.collect host unit).2 unit reply := by
  rw [collect_of_file present]
  exact congrArg (plan.collection _ unit) (answers.same _)

/-- Where a collection was degraded, another one under which the checker replies the same is degraded
in the same way. -/
theorem collect_degraded {reason : String} {reply : Outcome} (answers : plan.Answers unit reply)
    (degraded : (plan.collect host unit).1.degraded = some reason) {other : ScanPlan}
    (again : other.Answers unit reply) {later : Host}
    (sameFile : later.isFileAt unit.configuration = host.isFileAt unit.configuration) :
    (plan.collect host unit).1 = ⟨[], some reason⟩
      ∧ (other.collect later unit).1 = ⟨[], some reason⟩ := by
  cases present : host.isFileAt unit.configuration with
  | true =>
      rw [present] at sameFile
      rw [collect_fst answers present] at degraded ⊢
      rw [collect_fst again sameFile]
      exact ⟨collection_degraded degraded _ _, collection_degraded degraded _ _⟩
  | false =>
      rw [present] at sameFile
      rw [collect_of_no_file present] at degraded ⊢
      rw [collect_of_no_file sameFile]
      exact ⟨congrArg (Collection.mk []) degraded, congrArg (Collection.mk []) degraded⟩

theorem collect_found_fits (host : Host) {reply : Outcome} (answers : plan.Answers unit reply) :
    (∀ d ∈ (plan.collect host unit).1.found, d.fits = true)
      ∧ fitsWord (plan.collect host unit).1.found.length = true := by
  cases present : host.isFileAt unit.configuration with
  | true =>
      rw [collect_fst answers present]
      exact ⟨fun d => mem_found_fits, decide_eq_true (Nat.lt_of_le_of_lt found_length_le answers.short)⟩
  | false =>
      rw [collect_of_no_file present]
      exact ⟨fun _ none' => (nomatch none'), rfl⟩

/-- What a fix that may not run says about these diagnostics. -/
def idleNotes (plan : ScanPlan) (unit : BuildUnit) (before : List Diagnostic) : List String :=
  match plan.fixInvocation? unit with
  | none => []
  | some fix => if before.isEmpty then [] else [plan.dryRunNote unit fix]

section ReadOnly

variable (readOnly : plan.modifiesSources = false)
include readOnly

/-- Where sources may not be modified, the fix does nothing. -/
theorem applyRemedy_idle (before : List Diagnostic) :
    plan.applyRemedy host unit before = (.idle (plan.idleNotes unit before), host) := by
  rw [applyRemedy, idleNotes]
  cases fixes : plan.fixInvocation? unit with
  | none => rfl
  | some fix =>
      have announced : plan.dryRun = true := by
        cases level : plan.level with
        | none => simp [fixInvocation?, RemedySettings.command?, level] at fixes
        | shallow => simpa [modifiesSources, level] using readOnly
        | deep => simpa [modifiesSources, level] using readOnly
      dsimp only
      rw [if_pos announced]
      cases before <;> rfl

theorem freshHost_readOnly : plan.freshHost host unit = (plan.collect host unit).2 := by
  simp only [freshHost, applyRemedy_idle readOnly]

theorem freshReport_readOnly : plan.freshReport host unit = report unit (plan.collect host unit).1
    (.idle (plan.idleNotes unit (plan.collect host unit).1.found)) := by
  simp only [freshReport, applyRemedy_idle readOnly]

/-- The report of a scan can be kept. -/
theorem freshReport_fits (host : Host) {reply : Outcome} (answers : plan.Answers unit reply) :
    (plan.freshReport host unit).fits = true := by
  obtain ⟨small, few⟩ := collect_found_fits host answers
  have findings := Findings.fits_ofList small
  rw [freshReport_readOnly readOnly]
  simp only [report, RemedyOutcome.idle, UnitReport.ofDiagnostics, UnitReport.markFixed,
    UnitReport.fits, Counts.fits, Nat.zero_min, Nat.sub_zero, few, findings]
  rfl

end ReadOnly

end ScanPlan
end MonorepoCheck
