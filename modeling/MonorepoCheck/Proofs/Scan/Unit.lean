import MonorepoCheck.Proofs.Scan.Course
import MonorepoCheck.Scan.Unit

/-!
What a scan of one unit does: a kept report is handed out and nothing happens, or commands are run
and the report is kept if the collection was whole.
-/
namespace MonorepoCheck.ScanPlan

variable {plan : ScanPlan} {cache : Option Cache} {host : Host} {unit : BuildUnit}

section Preserved

variable {holds : Host → Prop}

/-- What every command preserves, a collection preserves. -/
theorem collect_preserves
    (runs : ∀ invocation host, holds host → holds (host.run plan.runner invocation).2)
    (start : holds host) : holds (plan.collect host unit).2 := by
  rw [collect_host]
  exact Host.runAll_preserves runs _ start

theorem applyRemedy_preserves
    (runs : ∀ invocation host, holds host → holds (host.run plan.runner invocation).2)
    (start : holds host) (found : List Diagnostic) :
    holds (plan.applyRemedy host unit found).2 := by
  obtain ⟨commands, -, left⟩ := plan.applyRemedy_course host unit found
  rw [left]
  exact Host.runAll_preserves runs commands start

end Preserved

/-- The report of a scan that nothing stands in for. -/
def freshReport (plan : ScanPlan) (host : Host) (unit : BuildUnit) : UnitReport :=
  let (collection, host) := plan.collect host unit
  report unit collection (plan.applyRemedy host unit collection.found).1

/-- The machine after the commands of such a scan. -/
def freshHost (plan : ScanPlan) (host : Host) (unit : BuildUnit) : Host :=
  let (collection, host) := plan.collect host unit
  (plan.applyRemedy host unit collection.found).2

theorem freshHost_preserves (holds : Host → Prop)
    (runs : ∀ invocation host, holds host → holds (host.run plan.runner invocation).2)
    (start : holds host) : holds (plan.freshHost host unit) :=
  applyRemedy_preserves runs (collect_preserves runs start) _

/-- A report that a scan tries to keep, with the cache and the machine of that moment. -/
structure Keeping where
  cache : Cache
  host : Host
  report : UnitReport

/-- What a scan tries to keep, unless a kept report is handed out or the collection was degraded. -/
def keeping? (plan : ScanPlan) (cache : Option Cache) (host : Host) (unit : BuildUnit) :
    Option Keeping :=
  match plan.keptReport? cache host unit, cache, (plan.collect host unit).1.degraded with
  | none, some cache, none => some ⟨cache, plan.freshHost host unit, plan.freshReport host unit⟩
  | _, _, _ => none

/-- The entry that a report is kept as. -/
def Keeping.entry (keeping : Keeping) (plan : ScanPlan) (unit : BuildUnit) : CacheEntry where
  key := shortKey unit.name
  unit := unit.name
  fingerprint := plan.fingerprint
  report := { keeping.report with fromCache := false }
  savedAt := keeping.host.now

theorem freshReport_fromCache : (plan.freshReport host unit).fromCache = false := by
  simp only [freshReport, report]
  split <;> rfl

/-- A kept report is handed out, and nothing else happens. -/
theorem scan_served {report : UnitReport} (served : plan.keptReport? cache host unit = some report) :
    plan.scan cache host unit = (report, host) := by
  rw [scan, served]

/-- A report that was kept before was made without a fix, under the same options and after the
newest source. -/
theorem keptReport?_some {report : UnitReport}
    (served : plan.keptReport? cache host unit = some report) :
    plan.modifiesSources = false ∧ ∃ cache' entry, cache = some cache'
      ∧ cache'.store.load host (shortKey unit.name) = some entry
      ∧ cache'.isFresh host unit plan.fingerprint entry = true
      ∧ report = { entry.report with fromCache := true } := by
  rw [keptReport?] at served
  split at served
  · rename_i reuses
    obtain ⟨cache', rfl, found⟩ := Option.bind_eq_some_iff.mp served
    obtain ⟨entry, loaded, found⟩ := Option.bind_eq_some_iff.mp found
    split at found
    · rename_i fresh
      exact ⟨by simpa using (Bool.and_eq_true_iff.mp reuses).2, cache', entry, rfl, loaded, fresh,
        (Option.some.inj found).symm⟩
    · cases found
  · cases served

/-- A kept report stands in where it can be loaded and is fresh, unless a fix has to run. -/
theorem keptReport?_of_load {cache : Cache} {entry : CacheEntry}
    (reuse : plan.settings.cache.reuse = true) (readOnly : plan.modifiesSources = false)
    (loaded : cache.store.load host (shortKey unit.name) = some entry)
    (fresh : cache.isFresh host unit plan.fingerprint entry = true) :
    plan.keptReport? (some cache) host unit = some { entry.report with fromCache := true } := by
  rw [keptReport?, reuse, readOnly]
  simp [Cache.lookup, loaded, fresh]

/-- Where nothing stands in and the collection is whole, the report is kept. -/
theorem keeping?_of_whole {cache : Cache}
    (missed : plan.keptReport? (some cache) host unit = none)
    (whole : (plan.collect host unit).1.degraded = none) :
    plan.keeping? (some cache) host unit
      = some ⟨cache, plan.freshHost host unit, plan.freshReport host unit⟩ := by
  unfold keeping?
  rw [missed, whole]

/-- Nothing is kept of a degraded collection. -/
theorem keeping?_of_degraded (degraded : (plan.collect host unit).1.degraded ≠ none) :
    plan.keeping? cache host unit = none := by
  unfold keeping?
  split
  · rename_i whole _
    exact absurd whole degraded
  · rfl

theorem keeping?_some {keeping : Keeping} (kept : plan.keeping? cache host unit = some keeping) :
    plan.keptReport? cache host unit = none ∧ cache = some keeping.cache
      ∧ (plan.collect host unit).1.degraded = none
      ∧ keeping = ⟨keeping.cache, plan.freshHost host unit, plan.freshReport host unit⟩ := by
  unfold keeping? at kept
  split at kept
  · rename_i whole missed
    obtain rfl := Option.some.inj kept
    exact ⟨missed, rfl, whole, rfl⟩
  · cases kept

/-- A fresh report is handed out, whether or not it is kept. -/
theorem scan_missed (missed : plan.keptReport? cache host unit = none) :
    (plan.scan cache host unit).1 = plan.freshReport host unit := by
  rw [scan, missed]
  simp only [scanAnew, freshReport]
  split <;> rfl

/-- What was tried to keep is saved after the commands. -/
theorem scan_kept {keeping : Keeping} (kept : plan.keeping? cache host unit = some keeping) :
    (plan.scan cache host unit).2 = (keeping.cache.store.save keeping.host keeping.host.token
      (keeping.entry plan unit)).1 := by
  obtain ⟨missed, cached, whole, made⟩ := keeping?_some kept
  rw [scan, missed, scanAnew]
  simp only [cached, whole]
  rw [made]
  rfl

/-- Where nothing is kept, a scan only runs commands. -/
theorem scan_unkept (missed : plan.keptReport? cache host unit = none)
    (unkept : plan.keeping? cache host unit = none) :
    (plan.scan cache host unit).2 = plan.freshHost host unit := by
  rw [scan, missed, scanAnew]
  unfold keeping? at unkept
  rw [missed] at unkept
  simp only [freshHost]
  split
  · rename_i whole
    simp [whole] at unkept
  · rfl

end MonorepoCheck.ScanPlan
