import MonorepoCheck.Proofs.Report.Merging
import MonorepoCheck.Proofs.Report.Stored
import MonorepoCheck.Proofs.Text.ByteOrder

/-!
Grouping diagnostics by their files sorts them. There is one way to group diagnostics, and listing what
is grouped gives them back in the order of their files, those of one file in the order in which they
came.
-/
namespace MonorepoCheck

namespace Findings

variable {findings others : Findings} {found : List Diagnostic} {file : String}
  {groups : List (String × List Diagnostic)}

theorem listUnder_of_mem (rising : RisingKeys groups) {group : String × List Diagnostic}
    (member : group ∈ groups) : listUnder groups group.1 = group.2 := by
  induction groups with
  | nil => cases member
  | cons head rest ih =>
      obtain ⟨above, tail⟩ := List.pairwise_cons.mp rising
      rw [listUnder_cons]
      rcases List.mem_cons.mp member with rfl | later
      · exact if_pos rfl
      · rw [if_neg (String.ne_of_lt (above group later)), ih tail later]

/-- A group is a file that is listed with its diagnostics. -/
theorem mem_groups_iff {group : String × List Diagnostic} :
    group ∈ findings.groups ↔ group.1 ∈ findings.files ∧ findings.get group.1 = group.2 := by
  constructor
  · exact fun member => ⟨List.mem_map_of_mem member, listUnder_of_mem findings.rising member⟩
  · rintro ⟨listed, has⟩
    obtain ⟨other, member, same⟩ := List.mem_map.mp listed
    have hasOther : findings.get other.1 = other.2 := listUnder_of_mem findings.rising member
    rwa [← Prod.ext same (by rw [← hasOther, same, has])]

/-- There is one way to group diagnostics by their files. -/
theorem Groups.eq (grouped : findings.Groups found) (groupedOther : others.Groups found) :
    findings = others := by
  apply ext
  apply eq_of_rising Prod.fst findings.rising others.rising
  intro group
  rw [mem_groups_iff, mem_groups_iff, grouped.each, groupedOther.each]
  exact and_congr_left fun _ => (grouped.files _).trans (groupedOther.files _).symm

section Keyed

/-- What is listed of a file is its group, where each group holds what is in its file. -/
theorem filter_groups (own : ∀ group ∈ groups, Own group) (rising : RisingKeys groups)
    (file : String) :
    (groups.flatMap Prod.snd).filter (fun d => d.file == file) = listUnder groups file := by
  induction groups with
  | nil => rfl
  | cons head rest ih =>
      obtain ⟨above, tail⟩ := List.pairwise_cons.mp rising
      obtain ⟨here, later⟩ := List.forall_mem_cons.mp own
      rw [List.flatMap_cons, List.filter_append, ih later tail, listUnder_cons]
      by_cases same : head.1 = file
      · -- the name of this group does not come again
        have new : file ∉ rest.map Prod.fst := by
          intro member
          obtain ⟨other, listed, again⟩ := List.mem_map.mp member
          exact String.ne_of_lt (above other listed) (same.trans again.symm)
        have all : head.2.filter (fun d => d.file == file) = head.2 := by
          rw [List.filter_eq_self]
          intro d member
          rw [here.inFile d member, same, beq_self_eq_true]
        rw [if_pos same, listUnder_new new, List.append_nil, all]
      · have none' : head.2.filter (fun d => d.file == file) = [] := by
          rw [List.filter_eq_nil_iff]
          intro d member inFile
          rw [here.inFile d member] at inFile
          exact same (beq_iff_eq.mp inFile)
        rw [if_neg same, none', List.nil_append]

theorem Keyed.filter_toList (keyed : findings.Keyed) (file : String) :
    findings.toList.filter (fun d => d.file == file) = findings.get file :=
  filter_groups keyed findings.rising file

theorem Keyed.mem_files_iff (keyed : findings.Keyed) :
    file ∈ findings.files ↔ ∃ d ∈ findings.toList, d.file = file := by
  constructor
  · intro listed
    obtain ⟨group, member, rfl⟩ := List.mem_map.mp listed
    obtain ⟨d, has⟩ := List.exists_mem_of_ne_nil _ (keyed group member).present
    exact ⟨d, List.mem_flatMap.mpr ⟨group, member, has⟩, (keyed group member).inFile d has⟩
  · rintro ⟨d, listed, rfl⟩
    obtain ⟨group, member, has⟩ := List.mem_flatMap.mp listed
    rw [(keyed group member).inFile d has]
    exact List.mem_map_of_mem member

/-- Findings group what they list. -/
theorem Keyed.groups_toList (keyed : findings.Keyed) : findings.Groups findings.toList where
  files _ := keyed.mem_files_iff
  each file := (keyed.filter_toList file).symm

theorem Keyed.ofList_toList (keyed : findings.Keyed) : ofList findings.toList = findings :=
  (groups_ofList findings.toList).eq keyed.groups_toList

theorem Keyed.toList_inOrder (keyed : findings.Keyed) :
    findings.toList.Pairwise fun a b => a.file ≤ b.file := by
  refine List.pairwise_flatMap.mpr ⟨?_, ?_⟩
  · intro group member
    refine List.pairwise_of_forall_mem_list fun a first b second => ?_
    have inFile := (keyed group member).inFile
    exact Std.le_of_eq ((inFile a first).trans (inFile b second).symm)
  · refine findings.rising.imp_of_mem ?_
    intro group later member memberLater before a first b second
    rw [(keyed group member).inFile a first, (keyed later memberLater).inFile b second]
    exact Std.le_of_lt before

end Keyed

end Findings

namespace UnitReport

/-- A report that lists these diagnostics sorted by the bytes of their files, those of one file as they
came, and from groups that its list would give again. -/
structure SortsByFile (report : UnitReport) (found : List Diagnostic) : Prop where
  listed : report.diagnostics.Perm found
  inOrder : report.diagnostics.Pairwise fun a b => Text.utf8 a.file ≤ Text.utf8 b.file
  stable : ∀ file, report.diagnostics.filter (fun d => d.file == file)
    = found.filter fun d => d.file == file
  keyed : report.findings.Keyed
  again : Findings.ofList report.diagnostics = report.findings

theorem sortsByFile_ofList {report : UnitReport} {found : List Diagnostic}
    (grouped : report.findings = .ofList found) : report.SortsByFile found := by
  have keyed : report.findings.Keyed := grouped ▸ Findings.keyed_ofList found
  constructor
  case listed =>
      rw [diagnostics, grouped]
      exact Findings.toList_ofList found
  case inOrder => exact keyed.toList_inOrder.imp Text.le_iff_utf8.mp
  case stable =>
      intro file
      rw [diagnostics, keyed.filter_toList, grouped]
      exact (Findings.groups_ofList found).each file
  case keyed => exact keyed
  case again => exact keyed.ofList_toList

/-- Whether they were found before a fix or after it, diagnostics are listed in a stable order by their
files. -/
theorem grouping_sorts (unit : String) (earlier : UnitReport) (found : List Diagnostic) :
    (ofDiagnostics unit found).SortsByFile found ∧ (earlier.afterRescan found).SortsByFile found :=
  ⟨sortsByFile_ofList rfl, sortsByFile_ofList rfl⟩

end UnitReport

end MonorepoCheck
