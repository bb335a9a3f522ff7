import MonorepoCheck.Scan.Batches

/-!
How far a run over batches comes. Whatever asks it to stop, it has merged the reports of the first
units in the order of the list, it stops between batches only, and it counts as cancelled exactly if
units are left.
-/
namespace MonorepoCheck.Batches

section Cut
variable {α : Type} {size : Nat}

theorem cutWithin_enough (size : Nat) (rounds more : Nat) (items : List α) (positive : 0 < size)
    (enough : items.length ≤ rounds) :
    cutWithin size (rounds + more) items = cutWithin size rounds items := by
  induction rounds generalizing items with
  | zero =>
      obtain rfl : items = [] := List.eq_nil_of_length_eq_zero (Nat.le_zero.mp enough)
      cases more <;> rfl
  | succ rounds ih =>
      cases items with
      | nil => rw [Nat.succ_add]; rfl
      | cons item rest =>
          rw [Nat.succ_add]
          simp only [cutWithin]
          rw [ih]
          simp only [List.length_drop, List.length_cons] at enough ⊢
          omega

theorem cut_nil : cut size ([] : List α) = [] := rfl

/-- The first batch is as long as it can be, and the others are the batches of what is left. -/
theorem cut_of_ne_nil (positive : 0 < size) {items : List α} (present : items ≠ []) :
    cut size items = items.take size :: cut size (items.drop size) := by
  have larger : max 1 size = size := Nat.max_eq_right positive
  unfold cut
  rw [larger]
  cases items with
  | nil => exact absurd rfl present
  | cons item rest =>
      have shorter : ((item :: rest).drop size).length ≤ rest.length := by
        simp only [List.length_drop, List.length_cons]
        omega
      have spare := cutWithin_enough size _ (rest.length - ((item :: rest).drop size).length)
        ((item :: rest).drop size) positive (Nat.le_refl _)
      rw [Nat.add_sub_cancel' shorter] at spare
      exact congrArg ((item :: rest).take size :: ·) spare

theorem size_pos (workers : Option Nat) : 0 < Batches.size workers := Nat.le_max_left 1 _

end Cut

/-- The reports of the first units, merged in order, and nothing else. -/
structure Merged (size : Nat) (units : List BuildUnit) (report : BuildUnit → UnitReport)
    (progress : Progress) : Prop where
  in_order : progress.report = .ofUnits ((units.take progress.processed).map report)
  bounded : progress.processed ≤ units.length
  whole_batches : progress.processed = units.length ∨ size ∣ progress.processed
  cancelled_iff : progress.cancelled = true ↔ progress.processed < units.length

/-- Two runs that came equally far are the same. -/
theorem Merged.unique {size other : Nat} {units : List BuildUnit} {report : BuildUnit → UnitReport}
    {left right : Progress} (first : Merged size units report left)
    (second : Merged other units report right) (same : left.processed = right.processed) :
    left = right := by
  obtain ⟨leftReport, processed, leftCancelled⟩ := left
  obtain ⟨rightReport, _, rightCancelled⟩ := right
  cases same
  have sameReport : leftReport = rightReport := first.in_order.trans second.in_order.symm
  have sameEnd : leftCancelled = rightCancelled :=
    Bool.eq_iff_iff.mpr (first.cancelled_iff.trans second.cancelled_iff.symm)
  rw [sameReport, sameEnd]

/-- What holds between two batches, with the units `before` merged and the units `rest` left: the
next batch starts at a multiple of the size. -/
structure Between (size : Nat) (report : BuildUnit → UnitReport) (before rest : List BuildUnit)
    (progress : Progress) : Prop where
  in_order : progress.report = .ofUnits (before.map report)
  processed : progress.processed = before.length
  whole_batches : rest = [] ∨ size ∣ before.length
  running : progress.cancelled = false

/-- The progress after a batch with these reports. -/
def afterBatch (progress : Progress) (reports : List UnitReport) : Progress :=
  { progress with
    report := reports.foldl RunReport.merge progress.report
    processed := progress.processed + reports.length }

section Between
variable {size : Nat} {report : BuildUnit → UnitReport} {before rest : List BuildUnit}
  {progress : Progress}

theorem between_start (units : List BuildUnit) : Between size report [] units ⟨.empty, 0, false⟩ :=
  ⟨rfl, rfl, Or.inr (Nat.dvd_zero size), rfl⟩

theorem Between.merge (between : Between size report before rest progress) (left : rest ≠ []) :
    Between size report (before ++ rest.take size) (rest.drop size)
      (afterBatch progress ((rest.take size).map report)) := by
  obtain ⟨inOrder, processed, whole, running⟩ := between
  have atMultiple : size ∣ before.length := whole.resolve_left left
  constructor
  case in_order => simp [afterBatch, inOrder, RunReport.ofUnits, List.foldl_append]
  case processed => simp [afterBatch, processed]
  case whole_batches =>
    rcases Nat.le_total size rest.length with full | short
    · right
      rw [List.length_append, List.length_take_of_le full]
      exact Nat.dvd_add atMultiple (Nat.dvd_refl size)
    · exact Or.inl (List.drop_eq_nil_of_le short)
  case running => exact running

/-- A run that stops between batches before the end is cancelled. -/
theorem Between.cancel (between : Between size report before rest progress) (left : rest ≠ []) :
    Merged size (before ++ rest) report { progress with cancelled := true } := by
  have positive := List.length_pos_iff.mpr left
  constructor
  case in_order => simpa [between.processed] using between.in_order
  case bounded => simp [between.processed]
  case whole_batches => exact Or.inr (between.processed ▸ between.whole_batches.resolve_left left)
  case cancelled_iff => simpa [between.processed] using positive

theorem Between.finish (between : Between size report before [] progress) :
    Merged size before report progress := by
  constructor
  case in_order => simpa [between.processed] using between.in_order
  case bounded => exact Nat.le_of_eq between.processed
  case whole_batches => exact Or.inl between.processed
  case cancelled_iff => simp [between.processed, between.running]

end Between

section Run
variable {σ : Type} {size : Nat} {report : BuildUnit → UnitReport} {cancelled : σ → Bool}
  {scan : σ → BuildUnit → UnitReport × σ}

theorem scanBatch_reports (same : ∀ state unit, (scan state unit).1 = report unit) (state : σ)
    (batch : List BuildUnit) : (scanBatch scan state batch).1 = batch.map report := by
  induction batch generalizing state with
  | nil => rfl
  | cons unit rest ih =>
      simp only [scanBatch, List.map_cons]
      rw [same, ih]

theorem runFrom_cons (progress : Progress) (state : σ) (batch : List BuildUnit)
    (more : List (List BuildUnit)) (same : ∀ state unit, (scan state unit).1 = report unit) :
    runFrom cancelled scan progress state (batch :: more) =
      if cancelled state then ({ progress with cancelled := true }, state)
      else runFrom cancelled scan (afterBatch progress (batch.map report))
        (scanBatch scan state batch).2 more := by
  have reports := scanBatch_reports same state batch
  rw [runFrom, afterBatch, List.length_map]
  simp only [reports]

theorem runFrom_merged (positive : 0 < size)
    (same : ∀ state unit, (scan state unit).1 = report unit) (rounds : Nat)
    (before rest : List BuildUnit) (enough : rest.length ≤ rounds) (progress : Progress) (state : σ)
    (between : Between size report before rest progress) :
    Merged size (before ++ rest) report
      (runFrom cancelled scan progress state (cut size rest)).1 := by
  -- a batch holds at least one unit, so there are no more batches than units
  induction rounds generalizing before rest progress state with
  | zero =>
      obtain rfl : rest = [] := List.eq_nil_of_length_eq_zero (Nat.le_zero.mp enough)
      rw [List.append_nil]
      exact between.finish
  | succ rounds ih =>
      by_cases done : rest = []
      · subst done
        rw [List.append_nil]
        exact between.finish
      · rw [cut_of_ne_nil positive done, runFrom_cons _ _ _ _ same]
        split
        · exact between.cancel done
        · have shorter : (rest.drop size).length ≤ rounds := by
            have present := List.length_pos_iff.mpr done
            simp only [List.length_drop]
            omega
          have merged := ih _ _ shorter _ (scanBatch scan state (rest.take size)).2
            (between.merge done)
          rwa [List.append_assoc, List.take_append_drop] at merged

theorem run_merged (workers : Option Nat) (units : List BuildUnit) (state : σ)
    (same : ∀ state unit, (scan state unit).1 = report unit) :
    Merged (Batches.size workers) units report
      (run (Batches.size workers) cancelled scan state units).1 :=
  runFrom_merged (size_pos workers) same _ [] units (Nat.le_refl _) _ state (between_start units)

end Run
end MonorepoCheck.Batches
