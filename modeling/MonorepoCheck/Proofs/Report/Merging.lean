import Mathlib.Data.List.Perm.Basic
import MonorepoCheck.Proofs.Report.Accounting
import MonorepoCheck.Proofs.Report.Words

/-!
Merging reports on units, in any order. Nothing is lost, nothing is replaced, and what is listed of a
file stands in the order in which the reports came; another order of the reports changes that order
alone. A machine, which adds words, has the same report as long as the sums fit its words.
-/
namespace MonorepoCheck

namespace Findings

variable {file : String}

/-- The files that are listed, in the order of their names. -/
def files (findings : Findings) : List String := findings.groups.map Prod.fst

theorem files_rising (findings : Findings) : findings.files.Pairwise (· < ·) :=
  List.pairwise_map.mpr findings.rising

/-- What rises under its keys is told by what is in it. -/
theorem eq_of_rising {α : Type} (key : α → String) {list other : List α}
    (rising : list.Pairwise fun a b => key a < key b)
    (risingOther : other.Pairwise fun a b => key a < key b) (same : ∀ a, a ∈ list ↔ a ∈ other) :
    list = other := by
  have once {list : List α} (rising : list.Pairwise fun a b => key a < key b) : list.Nodup :=
    rising.imp fun before => ne_of_apply_ne key (String.ne_of_lt before)
  apply List.Perm.eq_of_pairwise ?_ rising risingOther
  · exact (List.perm_ext_iff_of_nodup (once rising) (once risingOther)).mpr same
  · exact fun a b _ _ before after => absurd after (String.lt_asymm before)

theorem files_eq {findings others : Findings}
    (same : ∀ file, file ∈ findings.files ↔ file ∈ others.files) : findings.files = others.files :=
  eq_of_rising id findings.files_rising others.files_rising same

theorem mem_files_appendAll (groups : List (String × List Diagnostic)) (findings : Findings) :
    file ∈ (findings.appendAll groups).files ↔
      file ∈ findings.files ∨ file ∈ groups.map Prod.fst := by
  induction groups generalizing findings with
  | nil => simp [appendAll]
  | cons group rest ih =>
      have step : file ∈ (findings.append group.1 group.2).files ↔
          file ∈ findings.files ∨ file = group.1 := files_modifyGroups
      have later := ih (findings.append group.1 group.2)
      rw [step, or_assoc] at later
      simpa [appendAll] using later

/-- Each file keeps what it had and gets what the groups hold for it. Each name stands for one group. -/
theorem get_appendAll {groups : List (String × List Diagnostic)} (rising : RisingKeys groups)
    (findings : Findings) :
    (findings.appendAll groups).get file = findings.get file ++ listUnder groups file := by
  induction groups generalizing findings with
  | nil => simp [appendAll, listUnder]
  | cons group rest ih =>
      obtain ⟨above, tail⟩ := List.pairwise_cons.mp rising
      have later : (findings.appendAll (group :: rest)).get file
          = (findings.append group.1 group.2).get file ++ listUnder rest file := ih tail _
      rw [later, get_append, listUnder_cons]
      by_cases here : group.1 = file
      · have new : file ∉ rest.map Prod.fst := by
          intro member
          obtain ⟨other, listed, same⟩ := List.mem_map.mp member
          exact String.lt_irrefl file (by simpa [here, same] using above other listed)
        simp [here, listUnder_new new]
      · simp [here]

end Findings

namespace RunReport

variable {run other : RunReport} {reports others : List UnitReport}

/-- A report on a run that holds what these reports hold, in their order, and nothing else. -/
structure Gathers (run : RunReport) (reports : List UnitReport) : Prop where
  total : run.counts.total = (reports.map fun report => report.counts.total).sum
  fixed : run.counts.fixed = (reports.map fun report => report.counts.fixed).sum
  remaining : run.counts.remaining = (reports.map fun report => report.counts.remaining).sum
  units : run.units = reports.map UnitReport.summary
  notes : run.notes
    = reports.flatMap fun report => report.notes.map fun note => report.unit ++ ": " ++ note
  files : ∀ file, file ∈ run.findings.files ↔ ∃ report ∈ reports, file ∈ report.findings.files
  each : ∀ file, run.findings.get file = reports.flatMap fun report => report.findings.get file

theorem gathers_empty : Gathers empty [] := by
  constructor
  case files => simp [empty, Findings.empty, Findings.files]
  all_goals intros; rfl

theorem Gathers.merge (gathers : Gathers run reports) (report : UnitReport) :
    Gathers (run.merge report) (reports ++ [report]) := by
  obtain ⟨total, fixed, remaining, units, notes, files, each⟩ := gathers
  constructor
  case total => simp [RunReport.merge, Counts.add, total]
  case fixed => simp [RunReport.merge, Counts.add, fixed]
  case remaining => simp [RunReport.merge, Counts.add, remaining]
  case units => simp [RunReport.merge, units]
  case notes => simp [RunReport.merge, notes]
  case files =>
      intro file
      rw [merge_findings, Findings.mem_files_appendAll, files]
      simp [or_and_right, exists_or, Findings.files]
  case each =>
      intro file
      rw [merge_findings, Findings.get_appendAll report.findings.rising, each]
      simp [Findings.get, Findings.listUnder]

theorem gathers_ofUnits (reports : List UnitReport) : Gathers (ofUnits reports) reports := by
  induction reports using List.reverseRecOn with
  | nil => exact gathers_empty
  | append_singleton before report ih =>
      have last : ofUnits (before ++ [report]) = (ofUnits before).merge report := List.foldl_append
      rw [last]
      exact ih.merge report

/-- Reports on a run that differ in the order of their lists at most. -/
structure Rearranges (run other : RunReport) : Prop where
  counts : other.counts = run.counts
  files : other.findings.files = run.findings.files
  each : ∀ file, (other.findings.get file).Perm (run.findings.get file)

theorem Gathers.rearranges (gathers : Gathers run reports) (gathersOther : Gathers other others)
    (order : others.Perm reports) : Rearranges run other := by
  constructor
  case counts =>
      have total := (order.map fun report => report.counts.total).sum_eq
      have fixed := (order.map fun report => report.counts.fixed).sum_eq
      have remaining := (order.map fun report => report.counts.remaining).sum_eq
      rw [← gathers.total, ← gathersOther.total] at total
      rw [← gathers.fixed, ← gathersOther.fixed] at fixed
      rw [← gathers.remaining, ← gathersOther.remaining] at remaining
      cases runCounts : run.counts
      cases otherCounts : other.counts
      simp_all
  case files =>
      apply Findings.files_eq
      intro file
      rw [gathers.files, gathersOther.files]
      exact exists_congr fun report => and_congr_left fun _ => order.mem_iff
  case each =>
      intro file
      rw [gathers.each, gathersOther.each]
      exact order.flatMap_right _

/-- What merging comes to, with exact sums and on a machine. -/
structure Merges (run : RunReport) (reports : List UnitReport) : Prop extends Gathers run reports where
  /-- A machine has this report itself, and it is only for sums of `2 ^ 64` and more that its build
  matters. -/
  fitting : run.counts.fits = true → ∀ overflow, ofUnitsIn overflow reports = some run
  wrapping : ofUnitsIn .wraps reports = some { run with counts := run.counts.wrapped }
  stopping : ofUnitsIn .stops reports = none ↔ run.counts.fits = false

theorem merges_ofUnits (reports : List UnitReport) : Merges (ofUnits reports) reports := by
  constructor
  case toGathers => exact gathers_ofUnits reports
  case fitting =>
      intro fits overflow
      rw [ofUnitsIn_eq, inWords_of_fits fits]
  case wrapping => exact ofUnitsIn_eq .wraps reports
  case stopping => rw [ofUnitsIn_eq, inWords, Option.map_eq_none_iff, Counts.inWords_stops_none]

/-- Merging reports on units gathers what they hold in their order, and what it gathers does not hang on
that order. The sums are those of the numbers, as far as they fit the words of the machine. -/
theorem merging_keeps_all (reports : List UnitReport) :
    Merges (ofUnits reports) reports
      ∧ ∀ others : List UnitReport, others.Perm reports →
          Merges (ofUnits others) others ∧ Rearranges (ofUnits reports) (ofUnits others) := by
  refine ⟨merges_ofUnits reports, ?_⟩
  intro others order
  exact ⟨merges_ofUnits others,
    (gathers_ofUnits reports).rearranges (gathers_ofUnits others) order⟩

/-- Two units of one name and a third, with a file that two of them report on. -/
def overlapping : List UnitReport :=
  let first := { UnitReport.ofDiagnostics "lib" [⟨"lib/a.ts", 1, 1, "TS1", "one", none, none⟩] with
    notes := ["stopped"] }
  let second := UnitReport.ofDiagnostics "lib"
    [⟨"lib/a.ts", 2, 1, "TS2", "two", none, none⟩, ⟨"app/b.ts", 3, 1, "TS3", "three", none, none⟩]
  [first, second.markFixed 1, UnitReport.ofDiagnostics "app" []]

theorem overlapping_merged :
    overlapping.reverse.Perm overlapping
      ∧ (ofUnits overlapping).counts = ⟨3, 1, 2⟩
      ∧ (∀ overflow, ofUnitsIn overflow overlapping = some (ofUnits overlapping))
      ∧ (ofUnits overlapping).notes = ["lib: stopped"]
      ∧ (ofUnits overlapping).findings.files = ["app/b.ts", "lib/a.ts"]
      ∧ ((ofUnits overlapping).findings.get "lib/a.ts").map Diagnostic.code = ["TS1", "TS2"]
      ∧ ((ofUnits overlapping.reverse).findings.get "lib/a.ts").map Diagnostic.code = ["TS2", "TS1"]
      ∧ Rearranges (ofUnits overlapping) (ofUnits overlapping.reverse) := by
  have order : overlapping.reverse.Perm overlapping := overlapping.reverse_perm
  obtain ⟨merges, others⟩ := merging_keeps_all overlapping
  have exact' := merges.fitting (by decide +kernel)
  refine ⟨order, ?_, exact', ?_, ?_, ?_, ?_, (others overlapping.reverse order).2⟩ <;> decide +kernel

/-- Two reports whose counts fit words while the sums do not. -/
def overfull : List UnitReport :=
  let half : UnitReport := { UnitReport.empty with counts := ⟨Nat.pow 2 63, 0, Nat.pow 2 63⟩ }
  [half, half]

example : (∀ report ∈ overfull, report.counts.fits = true)
    ∧ (ofUnitsIn .wraps overfull).map RunReport.counts = some ⟨0, 0, 0⟩
    ∧ ofUnitsIn .stops overfull = none := by
  decide +kernel

end RunReport
end MonorepoCheck
