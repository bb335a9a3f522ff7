import MonorepoCheck.Proofs.Batches.Merged

/-!
What a run over batches scans: the first units of the list, one after the other. Where the batches
are cut does not show.
-/
namespace MonorepoCheck.Batches

variable {σ : Type} {size : Nat} {scan : σ → BuildUnit → UnitReport × σ}

theorem cut_flatten (positive : 0 < size) (units : List BuildUnit) :
    (cut size units).flatten = units := by
  induction rounds : units.length using Nat.strongRecOn generalizing units with
  | _ _ ih =>
      by_cases done : units = []
      · subst done
        rfl
      · have present := List.length_pos_iff.mpr done
        have shorter : (units.drop size).length < units.length := by
          rw [List.length_drop]
          omega
        rw [cut_of_ne_nil positive done, List.flatten_cons, ih _ (rounds ▸ shorter) _ rfl,
          List.take_append_drop]

theorem scanBatch_append (state : σ) (batch more : List BuildUnit) :
    scanBatch scan state (batch ++ more)
      = ((scanBatch scan state batch).1 ++ (scanBatch scan (scanBatch scan state batch).2 more).1,
          (scanBatch scan (scanBatch scan state batch).2 more).2) := by
  induction batch generalizing state with
  | nil => rfl
  | cons unit rest ih =>
      simp only [List.cons_append, scanBatch]
      rw [ih]

/-- The units `scanned` were scanned one after the other and merged into what was there before. -/
structure Scanned (scan : σ → BuildUnit → UnitReport × σ) (before : Progress) (state : σ)
    (scanned : List BuildUnit) (result : Progress × σ) : Prop where
  report : result.1.report
    = (scanBatch scan state scanned).1.foldl RunReport.merge before.report
  processed : result.1.processed = before.processed + scanned.length
  state : result.2 = (scanBatch scan state scanned).2

/-- A run scans the units of the first batches, and of all of them unless it is cancelled. -/
theorem runFrom_scanned (cancelled : σ → Bool) (scan : σ → BuildUnit → UnitReport × σ)
    (progress : Progress) (state : σ) (batches : List (List BuildUnit)) :
    ∃ first rest, batches = first ++ rest
      ∧ Scanned scan progress state first.flatten (runFrom cancelled scan progress state batches)
      ∧ ((runFrom cancelled scan progress state batches).1.cancelled = false → rest = [])
      ∧ (cancelled state = false → first = [] → rest = []) := by
  induction batches generalizing progress state with
  | nil => exact ⟨[], [], rfl, ⟨rfl, rfl, rfl⟩, fun _ => rfl, fun _ _ => rfl⟩
  | cons batch batches ih =>
      cases stop : cancelled state with
      | true =>
          -- nothing of these batches is scanned any more
          refine ⟨[], batch :: batches, rfl, ?_, ?_, fun running => absurd running Bool.noConfusion⟩
          · rw [runFrom, if_pos stop]
            exact ⟨rfl, rfl, rfl⟩
          · rw [runFrom, if_pos stop]
            exact fun finished => absurd finished Bool.noConfusion
      | false =>
          rw [runFrom, stop, if_neg Bool.false_ne_true]
          dsimp only
          obtain ⟨first, rest, rfl, scanned, finished, _⟩ := ih
            { progress with
              report := (scanBatch scan state batch).1.foldl RunReport.merge progress.report
              processed := progress.processed + batch.length }
            (scanBatch scan state batch).2
          refine ⟨batch :: first, rest, rfl, ?_, finished, fun _ none' => absurd none' (List.cons_ne_nil _ _)⟩
          constructor
          case report =>
              rw [scanned.report, List.flatten_cons, scanBatch_append, List.foldl_append]
          case processed =>
              rw [scanned.processed, List.flatten_cons, List.length_append, Nat.add_assoc]
          case state => rw [scanned.state, List.flatten_cons, scanBatch_append]

/-- A run over a list scans its first units, at least one unless it is cancelled before it begins,
and all of them unless it is cancelled at all. -/
theorem run_scanned (cancelled : σ → Bool) (scan : σ → BuildUnit → UnitReport × σ)
    (workers : Option Nat) (state : σ) (units : List BuildUnit) :
    ∃ first rest, units = first ++ rest
      ∧ Scanned scan ⟨.empty, 0, false⟩ state first
          (run (Batches.size workers) cancelled scan state units)
      ∧ ((run (Batches.size workers) cancelled scan state units).1.cancelled = false → rest = [])
      ∧ (cancelled state = false → units ≠ [] → first ≠ []) := by
  have positive := size_pos workers
  obtain ⟨first, rest, batches, scanned, finished, began⟩ := runFrom_scanned cancelled scan
    ⟨.empty, 0, false⟩ state (cut (Batches.size workers) units)
  have whole := cut_flatten positive units
  rw [batches, List.flatten_append] at whole
  refine ⟨first.flatten, rest.flatten, whole.symm, scanned, ?_, ?_⟩
  · intro uncancelled
    rw [finished uncancelled]
    rfl
  · intro running present
    rw [cut_of_ne_nil positive present] at batches
    cases first with
    | nil =>
        rw [began running rfl] at batches
        exact nomatch batches
    | cons batch first =>
        obtain ⟨rfl, _⟩ := List.cons.inj batches
        have units' := List.length_pos_iff.mpr present
        apply List.ne_nil_of_length_pos
        rw [List.flatten_cons, List.length_append, List.length_take]
        omega

theorem cut_present (positive : 0 < size) (units : List BuildUnit) :
    ∀ batch ∈ cut size units, batch ≠ [] := by
  induction rounds : units.length using Nat.strongRecOn generalizing units with
  | _ _ ih =>
      by_cases done : units = []
      · subst done
        exact fun _ member => nomatch member
      · have present := List.length_pos_iff.mpr done
        have shorter : (units.drop size).length < units.length := by
          rw [List.length_drop]
          omega
        rw [cut_of_ne_nil positive done]
        refine List.forall_mem_cons.mpr ⟨?_, ih _ (rounds ▸ shorter) _ rfl⟩
        apply List.ne_nil_of_length_pos
        rw [List.length_take]
        omega

/-- A stop is heard only where a batch is left, and each batch has a unit. -/
theorem runFrom_cancelled_iff (cancelled : σ → Bool) (scan : σ → BuildUnit → UnitReport × σ)
    {progress : Progress} (running : progress.cancelled = false) (state : σ)
    {batches : List (List BuildUnit)} (present : ∀ batch ∈ batches, batch ≠ []) :
    (runFrom cancelled scan progress state batches).1.cancelled = true ↔
      (runFrom cancelled scan progress state batches).1.processed
        < progress.processed + batches.flatten.length := by
  induction batches generalizing progress state with
  | nil => simp [runFrom, running]
  | cons batch batches ih =>
      obtain ⟨here, later⟩ := List.forall_mem_cons.mp present
      have units := List.length_pos_iff.mpr here
      rw [runFrom, List.flatten_cons, List.length_append]
      cases stop : cancelled state with
      | true =>
          simp only [if_true, true_iff]
          omega
      | false =>
          have next : ({ progress with
              report := (scanBatch scan state batch).1.foldl RunReport.merge progress.report
              processed := progress.processed + batch.length } : Progress).cancelled = false := running
          rw [if_neg Bool.false_ne_true, ← Nat.add_assoc]
          exact ih next _ later

/-- A run counts as cancelled exactly if units are left. -/
theorem run_cancelled_iff (cancelled : σ → Bool) (scan : σ → BuildUnit → UnitReport × σ)
    (workers : Option Nat) (state : σ) (units : List BuildUnit) :
    (run (Batches.size workers) cancelled scan state units).1.cancelled = true ↔
      (run (Batches.size workers) cancelled scan state units).1.processed < units.length := by
  have positive := size_pos workers
  have running : (⟨.empty, 0, false⟩ : Progress).cancelled = false := rfl
  have stops := runFrom_cancelled_iff cancelled scan running state (cut_present positive units)
  rwa [cut_flatten positive, Nat.zero_add] at stops

end MonorepoCheck.Batches
