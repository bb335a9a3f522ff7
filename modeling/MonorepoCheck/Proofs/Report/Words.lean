import MonorepoCheck.Report.Run

/-!
Counts in machine words. Adding words keeps what a word holds of the exact sums, and a program that
checks its sums stops exactly if these fit no word, so that it does not matter where in the list the
words overflow.
-/
namespace MonorepoCheck

theorem fitsWord_iff {n : Nat} : fitsWord n = true ↔ n < Nat.pow 2 64 := decide_eq_true_iff

namespace Counts

variable {a b : Counts}

theorem fits_iff : a.fits = true ↔
    a.total < Nat.pow 2 64 ∧ a.fixed < Nat.pow 2 64 ∧ a.remaining < Nat.pow 2 64 := by
  simp only [fits, Bool.and_eq_true, fitsWord_iff, and_assoc]

theorem fits_of_add (sum : (a.add b).fits = true) : a.fits = true := by
  obtain ⟨total, fixed, remaining⟩ := fits_iff.mp sum
  exact fits_iff.mpr ⟨Nat.lt_of_le_of_lt (Nat.le_add_right _ _) total,
    Nat.lt_of_le_of_lt (Nat.le_add_right _ _) fixed,
    Nat.lt_of_le_of_lt (Nat.le_add_right _ _) remaining⟩

theorem wrapped_of_fits (fits : a.fits = true) : a.wrapped = a := by
  obtain ⟨total, fixed, remaining⟩ := fits_iff.mp fits
  rw [wrapped, Nat.mod_eq_of_lt total, Nat.mod_eq_of_lt fixed, Nat.mod_eq_of_lt remaining]

theorem inWords_of_fits (fits : a.fits = true) (overflow : Overflow) :
    a.inWords overflow = some a := by
  cases overflow with
  | wraps => exact congrArg some (wrapped_of_fits fits)
  | stops => exact if_pos fits

theorem inWords_stops_none : a.inWords .stops = none ↔ a.fits = false := by
  rw [inWords]
  cases a.fits <;> simp

/-- The low word of a sum comes from the low words. -/
theorem wrapped_add_wrapped (a b : Counts) : (a.wrapped.add b).wrapped = (a.add b).wrapped := by
  simp only [wrapped, add, Nat.mod_add_mod]

end Counts

namespace RunReport

variable {run exact : RunReport} {reports : List UnitReport}

theorem inWords_of_fits (fits : run.counts.fits = true) (overflow : Overflow) :
    run.inWords overflow = some run := by
  rw [inWords, Counts.inWords_of_fits fits, Option.map_some]

/-- One step of a machine's merging, beside the exact one. -/
theorem mergeIn_inWords {overflow : Overflow} (held : exact.inWords overflow = some run)
    (report : UnitReport) : mergeIn overflow run report = (exact.merge report).inWords overflow := by
  rw [inWords] at held
  obtain ⟨counts, words, rfl⟩ := Option.map_eq_some_iff.mp held
  -- only the counts differ, so that the rest of the sum is the exact one
  have sum : (counts.add report.counts).inWords overflow
      = (exact.counts.add report.counts).inWords overflow := by
    cases overflow with
    | wraps =>
        obtain rfl := Option.some.inj words
        exact congrArg some (Counts.wrapped_add_wrapped _ _)
    | stops =>
        rw [Counts.inWords] at words
        split at words
        · rw [Option.some.inj words]
        · cases words
  rw [mergeIn, sum]
  rfl

/-- Once the exact sums fit no word, they never fit again. -/
theorem inWords_foldl_none (overfull : exact.inWords .stops = none) :
    (reports.foldl merge exact).inWords .stops = none := by
  induction reports generalizing exact with
  | nil => exact overfull
  | cons report rest ih =>
      apply ih
      rw [inWords, Option.map_eq_none_iff, Counts.inWords_stops_none] at overfull ⊢
      rw [Bool.eq_false_iff] at overfull ⊢
      exact fun fits => overfull (Counts.fits_of_add fits)

theorem foldlM_mergeIn {overflow : Overflow} (held : exact.inWords overflow = some run) :
    reports.foldlM (mergeIn overflow) run = (reports.foldl merge exact).inWords overflow := by
  induction reports generalizing run exact with
  | nil => exact held.symm
  | cons report rest ih =>
      rw [List.foldlM_cons, mergeIn_inWords held, List.foldl_cons]
      cases next : (exact.merge report).inWords overflow with
      | some merged => exact ih next
      | none =>
          cases overflow with
          | wraps => cases next
          | stops => exact (inWords_foldl_none next).symm

/-- A machine merges as if it formed the exact sums and then put them into words. -/
theorem ofUnitsIn_eq (overflow : Overflow) (reports : List UnitReport) :
    ofUnitsIn overflow reports = (ofUnits reports).inWords overflow :=
  foldlM_mergeIn (inWords_of_fits (by decide) overflow)

end RunReport
end MonorepoCheck
