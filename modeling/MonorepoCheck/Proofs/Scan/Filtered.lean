import MonorepoCheck.Proofs.Report.Grouping
import MonorepoCheck.Proofs.Scan.Remedied
import MonorepoCheck.Proofs.Scan.Reshaped

/-!
Scans under a filter. Where no fix runs, what such a scan reports is what the scan without a filter
reports, less the diagnostics that the filter does not accept.
-/
namespace MonorepoCheck

namespace Findings

variable {findings : Findings} {found : List Diagnostic} {file : String}
  {groups : List (String × List Diagnostic)} {keep : Diagnostic → Bool}

def restrictGroups (keep : Diagnostic → Bool) (groups : List (String × List Diagnostic)) :
    List (String × List Diagnostic) :=
  (groups.map fun group => (group.1, group.2.filter keep)).filter fun group => !group.2.isEmpty

theorem rising_restrictGroups (keep : Diagnostic → Bool) (rising : RisingKeys groups) :
    RisingKeys (restrictGroups keep groups) := by
  apply List.Pairwise.filter
  exact List.pairwise_map.mpr rising

/-- The diagnostics to keep, in their order. Files of which none is kept are not listed. -/
def restrict (keep : Diagnostic → Bool) (findings : Findings) : Findings :=
  ⟨restrictGroups keep findings.groups, rising_restrictGroups keep findings.rising⟩

theorem toList_restrict (keep : Diagnostic → Bool) (findings : Findings) :
    (findings.restrict keep).toList = findings.toList.filter keep := by
  simp only [toList, restrict, restrictGroups]
  induction findings.groups with
  | nil => rfl
  | cons group rest ih =>
      rw [List.map_cons, List.filter_cons, List.flatMap_cons, List.filter_append, ← ih]
      by_cases empty : (group.2.filter keep).isEmpty
      · simp [List.isEmpty_iff.mp empty]
      · simp [empty]

theorem get_restrict (keep : Diagnostic → Bool) (findings : Findings) (file : String) :
    (findings.restrict keep).get file = (findings.get file).filter keep := by
  suffices under : ∀ groups : List (String × List Diagnostic), RisingKeys groups →
      listUnder (restrictGroups keep groups) file = (listUnder groups file).filter keep from
    under findings.groups findings.rising
  intro groups rising
  induction groups with
  | nil => rfl
  | cons head rest ih =>
      obtain ⟨above, tail⟩ := List.pairwise_cons.mp rising
      rw [restrictGroups] at ih
      rw [restrictGroups, List.map_cons, List.filter_cons, listUnder_cons]
      by_cases here : head.1 = file
      · by_cases empty : (head.2.filter keep).isEmpty
        · -- the name of a group that is dropped does not come again
          have new : file ∉ rest.map Prod.fst := by
            intro member
            obtain ⟨other, listed, same⟩ := List.mem_map.mp member
            exact String.ne_of_lt (above other listed) (here.trans same.symm)
          simp [here, ih tail, listUnder_new new, List.isEmpty_iff.mp empty]
        · simp [empty, here, listUnder_cons]
      · by_cases empty : (head.2.filter keep).isEmpty
        · simp [empty, here, ih tail]
        · simp [empty, here, listUnder_cons, ih tail]

theorem mem_files_restrict :
    file ∈ (findings.restrict keep).files ↔ ∃ d ∈ findings.get file, keep d = true := by
  constructor
  · intro listed
    obtain ⟨group, member, rfl⟩ := List.mem_map.mp listed
    have present := (List.mem_filter.mp member).2
    have has := (mem_groups_iff.mp member).2
    rw [get_restrict] at has
    rw [← has] at present
    simpa using present
  · rintro ⟨d, listed, kept⟩
    by_contra new
    have none' := get_restrict keep findings file
    rw [get, ← listUnder, listUnder_new new] at none'
    exact List.filter_eq_nil_iff.mp none'.symm d listed kept

theorem Groups.restrict (grouped : findings.Groups found) (keep : Diagnostic → Bool) :
    (findings.restrict keep).Groups (found.filter keep) := by
  constructor
  case files =>
      intro file
      refine mem_files_restrict.trans ?_
      rw [grouped.each]
      simp only [List.mem_filter, beq_iff_eq]
      exact exists_congr fun d => and_right_comm
  case each =>
      intro file
      rw [get_restrict, grouped.each]
      exact List.filter_comm _ _ found

/-- Grouping what is kept is keeping it of the groups. -/
theorem ofList_filter (keep : Diagnostic → Bool) (found : List Diagnostic) :
    ofList (found.filter keep) = (ofList found).restrict keep :=
  (groups_ofList _).eq ((groups_ofList found).restrict keep)

end Findings

namespace ScanPlan

variable {plan : ScanPlan}

/-- The plan without its filter. -/
def unfiltered (plan : ScanPlan) : ScanPlan := { plan with filter := ⟨[], []⟩ }

/-- The filter does not come in before the checker's lines are read, and it does not tell whether they
are all there were. -/
theorem collection_unfiltered (plan : ScanPlan) (host : Host) (unit : BuildUnit) (outcome : Outcome) :
    (plan.collection host unit outcome).found
        = (plan.unfiltered.collection host unit outcome).found.filter plan.filter.accepts
      ∧ (plan.collection host unit outcome).degraded
        = (plan.unfiltered.collection host unit outcome).degraded := by
  constructor
  · have all : (plan.unfiltered.collection host unit outcome).found
        = plan.reported host unit outcome :=
      (plan.unfiltered.collection_found host unit outcome).trans (List.filter_true _)
    rw [collection_found, all]
  · cases outcome <;> rfl

theorem collect_unfiltered (plan : ScanPlan) (host : Host) (unit : BuildUnit) :
    (plan.collect host unit).1.found
        = (plan.unfiltered.collect host unit).1.found.filter plan.filter.accepts
      ∧ (plan.collect host unit).1.degraded = (plan.unfiltered.collect host unit).1.degraded
      ∧ (plan.collect host unit).2 = (plan.unfiltered.collect host unit).2 := by
  cases present : host.isFileAt unit.configuration with
  | true =>
      rw [collect_of_file present, collect_of_file present]
      obtain ⟨found, degraded⟩ := plan.collection_unfiltered
        (host.run plan.runner (plan.checkerInvocation unit)).2 unit
        (host.run plan.runner (plan.checkerInvocation unit)).1
      exact ⟨found, degraded, rfl⟩
  | false =>
      rw [collect_of_no_file present, collect_of_no_file present]
      exact ⟨rfl, rfl, rfl⟩

theorem keptReport?_unused {cache : Option Cache}
    (unused : plan.settings.cache.reuse = false ∨ cache = none) (host : Host) (unit : BuildUnit) :
    plan.keptReport? cache host unit = none := by
  rw [keptReport?]
  rcases unused with off | rfl
  · rw [off]
    rfl
  · split <;> rfl

/-- The report on a unit is another one as far as the filter accepts it. -/
structure Restricts (filter : Filter) (whole report : UnitReport) : Prop where
  unit : report.unit = whole.unit
  findings : report.findings = whole.findings.restrict filter.accepts
  listed : report.findings.toList = whole.findings.toList.filter filter.accepts
  counts : report.counts
    = ⟨report.findings.toList.length, 0, report.findings.toList.length⟩
  notes : report.notes = whole.notes

theorem report_restricts {filter : Filter} (unit : BuildUnit) {whole collection : Collection}
    (found : collection.found = whole.found.filter filter.accepts)
    (degraded : collection.degraded = whole.degraded) :
    Restricts filter (report unit whole (.idle [])) (report unit collection (.idle [])) := by
  have findings : Findings.ofList collection.found
      = (Findings.ofList whole.found).restrict filter.accepts := by
    rw [found, Findings.ofList_filter]
  constructor
  case unit => rfl
  case findings => exact findings
  case listed => exact (congrArg Findings.toList findings).trans (Findings.toList_restrict _ _)
  case counts =>
      have number : (Findings.ofList collection.found).toList.length = collection.found.length :=
        (Findings.toList_ofList _).length_eq
      simp [report, RemedyOutcome.idle, UnitReport.markFixed, UnitReport.ofDiagnostics, number]
  case notes =>
      simp [report, RemedyOutcome.idle, UnitReport.markFixed, UnitReport.ofDiagnostics, degraded]

/-- A scan under a filter reports what the filter accepts of the scan without one. Both have the same
notes, and the same commands are run. -/
theorem filtered_scan_restricts {cache : Option Cache} (noFix : plan.level = .none)
    (unused : plan.settings.cache.reuse = false ∨ cache = none) (host : Host) (unit : BuildUnit) :
    Restricts plan.filter (plan.unfiltered.scan cache host unit).1 (plan.scan cache host unit).1
      ∧ (plan.collect host unit).1.degraded = (plan.unfiltered.collect host unit).1.degraded
      ∧ plan.freshHost host unit = plan.unfiltered.freshHost host unit := by
  obtain ⟨found, degraded, left⟩ := plan.collect_unfiltered host unit
  obtain ⟨filtered, filteredHost⟩ := fresh_of_none noFix host unit
  obtain ⟨whole, wholeHost⟩ := @fresh_of_none plan.unfiltered noFix host unit
  rw [scan_missed (keptReport?_unused unused host unit), filtered, filteredHost,
    scan_missed (@keptReport?_unused plan.unfiltered cache unused host unit), whole, wholeHost]
  exact ⟨report_restricts unit found degraded, degraded, left⟩

end ScanPlan

namespace Remedied

def unremedied : ScanPlan := { plan with level := .none }

/-- The filter leaves one of two files. -/
theorem unremedied_restricts :
    unremedied.level = .none
      ∧ (unremedied.unfiltered.scan none host unit).1.findings.files = ["a/a.ts", "a/b.ts"]
      ∧ (unremedied.unfiltered.scan none host unit).1.counts = ⟨2, 0, 2⟩
      ∧ (unremedied.scan none host unit).1.findings.files = ["a/b.ts"]
      ∧ (unremedied.scan none host unit).1.counts = ⟨1, 0, 1⟩
      ∧ ScanPlan.Restricts unremedied.filter (unremedied.unfiltered.scan none host unit).1
          (unremedied.scan none host unit).1 := by
  have restricts := (@ScanPlan.filtered_scan_restricts unremedied none rfl (.inr rfl) host unit).1
  refine ⟨rfl, ?_, ?_, ?_, ?_, restricts⟩ <;> decide +kernel

end Remedied

end MonorepoCheck
