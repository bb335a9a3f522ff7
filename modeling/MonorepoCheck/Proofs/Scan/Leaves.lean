import MonorepoCheck.Proofs.Report.Origin
import MonorepoCheck.Proofs.Scan.Sequence

/-!
What the scans of a run leave in the store, once all of them are done: for each unit an entry with
its report, or, where the checker could not do its work, what was there before.
-/
namespace MonorepoCheck

namespace Visit

variable {store : CacheStore} {visit : Visit}

/-- What a scan leaves on the machine `last` for the next scan of its unit. -/
inductive Leaves (store : CacheStore) (visit : Visit) (last : Host) : Prop where
  | entry (working : ¬ visit.Degraded) (entry : CacheEntry)
      (loaded : store.load last (shortKey visit.unit.name) = some entry)
      (sameOptions : entry.fingerprint = visit.plan.fingerprint)
      (sameReport : visit.report.withoutOrigin = entry.report.withoutOrigin)
  | degraded (degraded : visit.Degraded)
      (unchanged : store.load last (shortKey visit.unit.name)
        = store.load visit.before (shortKey visit.unit.name))

theorem written?_degraded (degraded : visit.Degraded) : visit.written? = none := by
  apply Option.eq_none_iff_forall_ne_some.mpr
  intro entry written
  obtain ⟨keeping, kept, _⟩ := written?_some written
  exact degraded.2 (ScanPlan.keeping?_some kept).2.2.1

/-- A scan whose checker did its work leaves an entry with its report. -/
theorem leaves_entry (steady : visit.Steady store) {cache : Cache}
    (cached : visit.cache = some cache) (readOnly : visit.plan.modifiesSources = false)
    {reply : Outcome} (answers : visit.plan.Answers visit.unit reply)
    (working : ¬ visit.Degraded) : ∃ entry,
      store.load visit.after (shortKey visit.unit.name) = some entry
        ∧ entry.fingerprint = visit.plan.fingerprint
        ∧ visit.report.withoutOrigin = entry.report.withoutOrigin := by
  cases found : visit.plan.keptReport? visit.cache visit.before visit.unit with
  | some report =>
      obtain ⟨_, other, entry, otherCached, loaded, fresh, rfl⟩ := ScanPlan.keptReport?_some found
      have scanned := ScanPlan.scan_served found
      rw [steady.storeShared other otherCached] at loaded
      refine ⟨entry, ?_, (Cache.isFresh_iff.mp fresh).1, ?_⟩
      · rw [Visit.after, scanned]
        exact loaded
      · rw [Visit.report, scanned]
        rfl
  | none =>
      -- nothing was found and the checker did its work, so the new report is kept
      have whole : (visit.plan.collect visit.before visit.unit).1.degraded = none :=
        Classical.not_not.mp fun degraded => working ⟨found, degraded⟩
      have kept : visit.plan.keeping? visit.cache visit.before visit.unit
          = some ⟨cache, visit.plan.freshHost visit.before visit.unit,
              visit.plan.freshReport visit.before visit.unit⟩ := by
        rw [cached] at found ⊢
        exact ScanPlan.keeping?_of_whole found whole
      obtain ⟨entry, wrote⟩ := steady.writes _ kept
      have saved := saved_of_written steady.toProper wrote
      obtain ⟨keeping, again, rfl⟩ := written?_some wrote
      obtain rfl := Option.some.inj (kept.symm.trans again)
      refine ⟨_, saved.load_self (.shortKey visit.unit.name) ?_, rfl, ?_⟩
      · exact ScanPlan.freshReport_fits readOnly visit.before answers
      · rw [Visit.report_missed found]
        rfl

end Visit

namespace ScanPlan

variable {plan : ScanPlan} {cache : Cache} {store : CacheStore} {host : Host}
  {units : List BuildUnit}

/-- After a run, each of its scans has left its report or found the checker unable to work. -/
theorem visits_leave (readOnly : plan.modifiesSources = false)
    (steady : ∀ visit ∈ plan.visits (some cache) host units, visit.Steady store)
    (answers : ∀ unit ∈ units, ∃ reply, plan.Answers unit reply)
    (distinct : (units.map fun unit => shortKey unit.name).Nodup)
    (reachable : ∀ unit ∈ units, store.Reachable host (shortKey unit.name))
    {visit : Visit} (member : visit ∈ plan.visits (some cache) host units) :
    visit.Leaves store (plan.afterVisits (some cache) host units) := by
  have own := steady visit member
  obtain ⟨before, rest, rfl, made, left⟩ := visits_split member
  have plain : PlainKey (shortKey visit.unit.name) := .shortKey visit.unit.name
  have scheduled : visit.unit ∈ before ++ visit.unit :: rest := by simp
  have reached := visits_reachable plain steady (reachable visit.unit scheduled)
  rw [visits_append] at steady
  obtain ⟨earlier, later⟩ := List.forall_mem_append.mp steady
  have later := (List.forall_mem_cons.mp later).2
  rw [← made] at later
  -- keys are distinct, so no later scan touches the entry of this one
  have others : ∀ unit ∈ rest, shortKey visit.unit.name ≠ shortKey unit.name := by
    rw [List.map_append, List.map_cons] at distinct
    have once := (List.nodup_cons.mp (List.nodup_append.mp distinct).2.1).1
    exact fun unit member same => once (same ▸ List.mem_map_of_mem member)
  rw [left] at reached ⊢
  by_cases degraded : visit.Degraded
  · apply Visit.Leaves.degraded degraded
    have found : store.Reachable visit.before (shortKey visit.unit.name) := by
      rw [made]
      exact visits_reachable plain earlier (reachable visit.unit scheduled)
    -- nobody wrote the entry of a degraded unit: it can be reached now just as before
    calc store.load (plan.afterVisits (some cache) visit.after rest) (shortKey visit.unit.name)
        = store.kept? (plan.afterVisits (some cache) visit.after rest) (shortKey visit.unit.name) :=
          reached
      _ = store.kept? visit.after (shortKey visit.unit.name) := visits_kept? plain later others
      _ = store.kept? visit.before (shortKey visit.unit.name) := by
          rw [Visit.kept?_after own.toProper plain, Visit.written?_degraded degraded]
      _ = store.load visit.before (shortKey visit.unit.name) := found.symm
  · obtain ⟨reply, answers⟩ := answers visit.unit scheduled
    have cached : visit.cache = some cache := by rw [made]
    have planned : visit.plan = plan := by rw [made]
    obtain ⟨entry, loaded, sameOptions, sameReport⟩ := Visit.leaves_entry own cached
      (by rwa [planned]) (by rwa [planned]) degraded
    exact .entry degraded entry (visits_load plain later others loaded) sameOptions sameReport

end ScanPlan
end MonorepoCheck
