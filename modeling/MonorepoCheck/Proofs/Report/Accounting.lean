import MonorepoCheck.Proofs.Report.Origin
import Mathlib.Algebra.BigOperators.Group.List.Basic
import Mathlib.Algebra.Ring.Nat
import Mathlib.Data.List.Forall2
import Mathlib.Data.List.Induction

/-!
The books of a report: what is fixed and what remains make up what there was, every file that is
listed has a diagnostic, and merging adds everything up.
-/
namespace MonorepoCheck

/-- What remains is what is not fixed. -/
structure Counts.Balanced (counts : Counts) : Prop where
  fixed_le : counts.fixed ≤ counts.total
  remaining : counts.remaining = counts.total - counts.fixed

theorem Counts.Balanced.zero : Balanced .zero := ⟨Nat.le_refl 0, rfl⟩

theorem Counts.Balanced.add {a b : Counts} (first : a.Balanced) (second : b.Balanced) :
    (a.add b).Balanced := by
  obtain ⟨left, rest⟩ := first
  obtain ⟨right, other⟩ := second
  constructor
  case fixed_le => exact Nat.add_le_add left right
  case remaining =>
      simp only [Counts.add]
      omega

namespace Findings

/-- A file with diagnostics of its own. -/
structure Own (group : String × List Diagnostic) : Prop where
  present : group.2 ≠ []
  inFile : ∀ d ∈ group.2, d.file = group.1

/-- Files are listed for their diagnostics only. -/
def Keyed (findings : Findings) : Prop := ∀ group ∈ findings.groups, Own group

variable {findings : Findings} {file : String} {found : List Diagnostic}

theorem mem_modifyGroups {change : List Diagnostic → List Diagnostic}
    {groups : List (String × List Diagnostic)} {group : String × List Diagnostic}
    (member : group ∈ modifyGroups file change groups) :
    group ∈ groups ∨ group = (file, change [])
      ∨ ∃ old, (file, old) ∈ groups ∧ group = (file, change old) := by
  induction groups with
  | nil => exact .inr (.inl (List.mem_singleton.mp member))
  | cons head rest ih =>
      obtain ⟨other, old⟩ := head
      rw [modifyGroups] at member
      split at member
      · rcases List.mem_cons.mp member with new | standing
        · exact .inr (.inl new)
        · exact .inl standing
      · split at member
        · rename_i same
          subst same
          rcases List.mem_cons.mp member with changed | standing
          · exact .inr (.inr ⟨old, List.mem_cons_self, changed⟩)
          · exact .inl (List.mem_cons_of_mem _ standing)
        · rcases List.mem_cons.mp member with first | later
          · exact .inl (first ▸ List.mem_cons_self)
          · rcases ih later with standing | new | ⟨old, stood, changed⟩
            · exact .inl (List.mem_cons_of_mem _ standing)
            · exact .inr (.inl new)
            · exact .inr (.inr ⟨old, List.mem_cons_of_mem _ stood, changed⟩)

theorem keyed_empty : empty.Keyed := fun _ member => nomatch member

theorem Keyed.append (keyed : findings.Keyed) (own : Own (file, found)) :
    (findings.append file found).Keyed := by
  intro group member
  rcases mem_modifyGroups member with standing | rfl | ⟨old, stood, rfl⟩
  · exact keyed group standing
  · exact own
  · have before := keyed _ stood
    constructor
    case present => exact fun none' => own.present (List.append_eq_nil_iff.mp none').2
    case inFile =>
        intro d listed
        rcases List.mem_append.mp listed with early | late
        · exact before.inFile d early
        · exact own.inFile d late

theorem toList_modifyGroups (groups : List (String × List Diagnostic)) :
    ((modifyGroups file (· ++ found) groups).flatMap Prod.snd).Perm
      (groups.flatMap Prod.snd ++ found) := by
  induction groups with
  | nil => simp [modifyGroups]
  | cons head rest ih =>
      obtain ⟨other, old⟩ := head
      rw [modifyGroups]
      split
      · rw [List.flatMap_cons, List.nil_append]
        exact List.perm_append_comm
      · split
        · simp only [List.flatMap_cons, List.append_assoc]
          exact List.Perm.append_left old List.perm_append_comm
        · simp only [List.flatMap_cons, List.append_assoc]
          exact List.Perm.append_left old ih

/-- Nothing is lost by adding to the diagnostics of a file. -/
theorem toList_append (findings : Findings) (file : String) (found : List Diagnostic) :
    (findings.append file found).toList.Perm (findings.toList ++ found) :=
  toList_modifyGroups findings.groups

/-- All groups of one after those of the other, as merging adds them. -/
def appendAll (findings : Findings) (groups : List (String × List Diagnostic)) : Findings :=
  groups.foldl (fun findings group => findings.append group.1 group.2) findings

theorem Keyed.appendAll {groups : List (String × List Diagnostic)} (keyed : findings.Keyed)
    (own : ∀ group ∈ groups, Own group) : (findings.appendAll groups).Keyed := by
  induction groups generalizing findings with
  | nil => exact keyed
  | cons group rest ih =>
      obtain ⟨here, later⟩ := List.forall_mem_cons.mp own
      exact ih (keyed.append here) later

theorem toList_appendAll (groups : List (String × List Diagnostic)) (findings : Findings) :
    (findings.appendAll groups).toList.Perm (findings.toList ++ groups.flatMap Prod.snd) := by
  induction groups generalizing findings with
  | nil => simp [Findings.appendAll]
  | cons group rest ih =>
      rw [List.flatMap_cons, ← List.append_assoc]
      exact (ih _).trans ((toList_append findings group.1 group.2).append_right _)

/-- Grouping diagnostics adds each as a group of its own. -/
theorem ofList_eq (found : List Diagnostic) :
    ofList found = empty.appendAll (found.map fun d => (d.file, [d])) := by
  rw [ofList, Findings.appendAll, List.foldl_map]

theorem keyed_ofList (found : List Diagnostic) : (ofList found).Keyed := by
  rw [ofList_eq]
  apply keyed_empty.appendAll
  intro group member
  obtain ⟨d, _, rfl⟩ := List.mem_map.mp member
  exact ⟨List.cons_ne_nil d [], fun other listed => by rw [List.mem_singleton.mp listed]⟩

theorem toList_ofList (found : List Diagnostic) : (ofList found).toList.Perm found := by
  rw [ofList_eq]
  have added := toList_appendAll (found.map fun d => (d.file, [d])) empty
  simpa [empty, toList, List.flatMap_map] using added

/-- Whether diagnostics are grouped by their files: a file is listed if one of them is in it, with all
that are, in the order in which they came. -/
structure Groups (findings : Findings) (found : List Diagnostic) : Prop where
  files : ∀ file, file ∈ findings.groups.map Prod.fst ↔ ∃ d ∈ found, d.file = file
  each : ∀ file, findings.get file = found.filter fun d => d.file == file

theorem files_modifyGroups {change : List Diagnostic → List Diagnostic}
    {groups : List (String × List Diagnostic)} {other : String} :
    other ∈ (modifyGroups file change groups).map Prod.fst
      ↔ other ∈ groups.map Prod.fst ∨ other = file := by
  induction groups with
  | nil => simp [modifyGroups]
  | cons head rest ih =>
      rw [modifyGroups]
      split
      · simp [or_comm]
      · split
        · rename_i same
          simp [same, or_comm]
        · rw [List.map_cons, List.mem_cons, ih, List.map_cons, List.mem_cons, or_assoc]

/-- The list under a key, which is empty where the key is new. -/
def listUnder (groups : List (String × List Diagnostic)) (file : String) : List Diagnostic :=
  ((groups.find? fun group => group.1 == file).map Prod.snd).getD []

theorem listUnder_cons (group : String × List Diagnostic) (rest : List (String × List Diagnostic))
    (file : String) :
    listUnder (group :: rest) file = if group.1 = file then group.2 else listUnder rest file := by
  by_cases same : group.1 = file <;> simp [listUnder, same]

theorem listUnder_new {groups : List (String × List Diagnostic)}
    (new : file ∉ groups.map Prod.fst) : listUnder groups file = [] := by
  have none' : groups.find? (fun group => group.1 == file) = none := by
    rw [List.find?_eq_none]
    intro group member same
    exact new (beq_iff_eq.mp same ▸ List.mem_map_of_mem member)
  rw [listUnder, none']
  rfl

theorem listUnder_modifyGroups {groups : List (String × List Diagnostic)}
    (rising : RisingKeys groups) (change : List Diagnostic → List Diagnostic) (file other : String) :
    listUnder (modifyGroups file change groups) other
      = if file = other then change (listUnder groups other) else listUnder groups other := by
  induction groups with
  | nil => exact listUnder_cons _ [] other
  | cons head rest ih =>
      obtain ⟨above, tail⟩ := List.pairwise_cons.mp rising
      rw [modifyGroups]
      split
      · -- all keys are larger, so that the new one was not among them
        rename_i before
        have new : file ∉ (head :: rest).map Prod.fst := by
          intro member
          rcases List.mem_cons.mp member with same | later
          · exact String.lt_irrefl _ (same ▸ before)
          · obtain ⟨group, listed, same⟩ := List.mem_map.mp later
            exact String.lt_irrefl _ (String.lt_trans before (same ▸ above group listed))
        rw [listUnder_cons]
        by_cases same : file = other
        · rw [if_pos same, if_pos same, ← same, listUnder_new new]
        · rw [if_neg same, if_neg same]
      · split
        · rename_i same
          rw [listUnder_cons, listUnder_cons, same]
          split <;> rfl
        · rename_i different
          rw [listUnder_cons, listUnder_cons, ih tail]
          by_cases first : head.1 = other
          · rw [if_pos first, if_pos first, if_neg (fun same => different (same.trans first.symm))]
          · rw [if_neg first, if_neg first]

/-- The diagnostics of a file after some were added to one. -/
theorem get_append (findings : Findings) (file other : String) (found : List Diagnostic) :
    (findings.append file found).get other
      = if file = other then findings.get other ++ found else findings.get other :=
  listUnder_modifyGroups findings.rising _ file other

theorem groups_append {before : List Diagnostic} (grouped : findings.Groups before) (d : Diagnostic) :
    (findings.append d.file [d]).Groups (before ++ [d]) := by
  constructor
  case files =>
      intro file
      rw [append, modify, files_modifyGroups, grouped.files]
      simp only [List.mem_append, List.mem_singleton, or_and_right, exists_or, exists_eq_left,
        @eq_comm _ d.file]
  case each =>
      intro file
      rw [get_append, grouped.each, List.filter_append]
      by_cases same : d.file = file <;> simp [same]

theorem groups_ofList (found : List Diagnostic) : (ofList found).Groups found := by
  induction found using List.reverseRecOn with
  | nil => exact ⟨by simp [ofList, empty], fun _ => rfl⟩
  | append_singleton before d ih =>
      have grown : ofList (before ++ [d]) = (ofList before).append d.file [d] := List.foldl_append
      rw [grown]
      exact groups_append ih d

end Findings

/-- The report on a unit is in order. -/
structure UnitReport.InOrder (report : UnitReport) : Prop where
  balanced : report.counts.Balanced
  keyed : report.findings.Keyed

/-- A report lists exactly what remains. -/
def UnitReport.Lists (report : UnitReport) : Prop :=
  report.findings.toList.length = report.counts.remaining

namespace RunReport

def totals (summaries : List UnitSummary) : Counts :=
  ⟨(summaries.map fun summary => summary.counts.total).sum,
    (summaries.map fun summary => summary.counts.fixed).sum,
    (summaries.map fun summary => summary.counts.remaining).sum⟩

variable {run : RunReport} {report : UnitReport} {reports : List UnitReport}

theorem merge_findings (run : RunReport) (report : UnitReport) :
    (run.merge report).findings = run.findings.appendAll report.findings.groups := rfl

/-- What holds of the report on a run while the reports on its units are merged into it. -/
structure Adds (run : RunReport) (reports : List UnitReport) : Prop where
  units : run.units = reports.map UnitReport.summary
  counts : run.counts = totals run.units
  listed : run.findings.toList.Perm (reports.flatMap fun report => report.findings.toList)

theorem adds_empty : Adds empty [] := ⟨rfl, rfl, .nil⟩

theorem Adds.merge (adds : Adds run reports) (report : UnitReport) :
    Adds (run.merge report) (reports ++ [report]) := by
  constructor
  case units => simp [RunReport.merge, adds.units]
  case counts =>
      simp [RunReport.merge, adds.counts, totals, Counts.add, UnitReport.summary]
  case listed =>
      rw [merge_findings, List.flatMap_append]
      refine (Findings.toList_appendAll report.findings.groups run.findings).trans ?_
      simpa [Findings.toList] using adds.listed.append_right _

theorem adds_ofUnits (reports : List UnitReport) : Adds (ofUnits reports) reports := by
  -- the merge may have begun with other reports
  suffices further : ∀ (run : RunReport) (before : List UnitReport), Adds run before →
      Adds (reports.foldl RunReport.merge run) (before ++ reports) from further empty [] adds_empty
  induction reports with
  | nil => exact fun run before adds => by simpa using adds
  | cons report rest ih =>
      intro run before adds
      have next := ih _ _ (adds.merge report)
      rwa [List.append_assoc] at next

theorem keyed_ofUnits (inOrder : ∀ report ∈ reports, report.findings.Keyed) :
    (ofUnits reports).findings.Keyed := by
  suffices further : ∀ run : RunReport, run.findings.Keyed →
      (reports.foldl RunReport.merge run).findings.Keyed from
    further empty Findings.keyed_empty
  induction reports with
  | nil => exact fun run keyed => keyed
  | cons report rest ih =>
      obtain ⟨here, later⟩ := List.forall_mem_cons.mp inOrder
      intro run keyed
      exact ih later _ (keyed.appendAll here)

theorem balanced_totals {summaries : List UnitSummary}
    (balanced : ∀ summary ∈ summaries, summary.counts.Balanced) : (totals summaries).Balanced := by
  induction summaries with
  | nil => exact Counts.Balanced.zero
  | cons summary rest ih =>
      obtain ⟨here, later⟩ := List.forall_mem_cons.mp balanced
      exact here.add (ih later)

/-- Where every unit lists what remains of it, so does the run. -/
theorem Adds.lists (adds : Adds run reports) (lists : ∀ report ∈ reports, report.Lists) :
    run.findings.toList.length = run.counts.remaining := by
  rw [adds.listed.length_eq, adds.counts, adds.units, List.length_flatMap]
  have same : reports.map (fun report => report.findings.toList.length)
      = reports.map fun report => report.counts.remaining := List.map_congr_left lists
  rw [same]
  simp only [totals, List.map_map]
  rfl

theorem addNotes_counts (notes : List String) (run : RunReport) :
    (notes.foldl addNote run).counts = run.counts
      ∧ (notes.foldl addNote run).units = run.units
      ∧ (notes.foldl addNote run).findings = run.findings := by
  induction notes generalizing run with
  | nil => exact ⟨rfl, rfl, rfl⟩
  | cons note notes ih => exact ih (run.addNote note)

end RunReport
end MonorepoCheck
