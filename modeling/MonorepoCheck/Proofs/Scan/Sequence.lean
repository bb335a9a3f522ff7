import MonorepoCheck.Proofs.Scan.Collected
import MonorepoCheck.Proofs.Scan.History
import MonorepoCheck.Scan.Batches

/-!
Scans of one unit after another that share a store. An entry that can be loaded stays so until its
own unit writes another one, and no scan makes an entry loadable that it did not write.
-/
namespace MonorepoCheck

namespace Visit

/-- A scan that writes what it tries to keep. Its commands hide no entry of the store. -/
structure Steady (store : CacheStore) (visit : Visit) : Prop extends visit.Proper store where
  writes : ∀ keeping, visit.plan.keeping? visit.cache visit.before visit.unit = some keeping →
    ∃ entry, visit.written? = some entry
  storeOpen : ∀ invocation host key entry, store.load host key = some entry →
    store.load (visit.plan.runner invocation host).2 key = some entry

/-- Whether the checker could not do its work. -/
def Degraded (visit : Visit) : Prop :=
  visit.plan.keptReport? visit.cache visit.before visit.unit = none
    ∧ (visit.plan.collect visit.before visit.unit).1.degraded ≠ none

variable {store : CacheStore} {visit : Visit} {key : String} {entry : CacheEntry}

theorem commands_open (steady : visit.Steady store)
    (loaded : store.load visit.before key = some entry) :
    store.load (visit.plan.freshHost visit.before visit.unit) key = some entry :=
  ScanPlan.freshHost_preserves (fun host => store.load host key = some entry)
    (fun invocation _ loaded => steady.storeOpen invocation _ key entry loaded) loaded

/-- An entry that a scan wrote is saved on the machine that its commands left. -/
theorem saved_of_written (proper : visit.Proper store) (written : visit.written? = some entry) :
    CacheStore.Saved store (visit.plan.freshHost visit.before visit.unit) entry visit.after := by
  obtain ⟨keeping, kept, rfl⟩ := written?_some written
  obtain ⟨_, cached, _, made⟩ := ScanPlan.keeping?_some kept
  have shared := proper.storeShared _ cached
  have after := after_kept kept
  have went : (store.save keeping.host keeping.host.token
      (keeping.entry visit.plan visit.unit)).2 = .ok () := by
    simp only [written?, kept, shared] at written
    split at written
    · assumption
    · cases written
  rw [shared] at after
  rw [show visit.plan.freshHost visit.before visit.unit = keeping.host by rw [made]]
  have parts : store.save keeping.host keeping.host.token (keeping.entry visit.plan visit.unit)
      = (visit.after, (store.save keeping.host keeping.host.token
          (keeping.entry visit.plan visit.unit)).2) := by
    rw [after]
  rcases CacheStore.save_spec (.shortKey visit.unit.name) parts with ⟨_, saved⟩ | ⟨⟨cause, failed⟩, _⟩
  · exact saved
  · rw [went] at failed
    cases failed

theorem load_after (steady : visit.Steady store) (plain : PlainKey key)
    (other : key ≠ shortKey visit.unit.name) (loaded : store.load visit.before key = some entry) :
    store.load visit.after key = some entry := by
  cases kept : visit.plan.keeping? visit.cache visit.before visit.unit with
  | none =>
      rcases after_unkept kept with same | same
      · rwa [same]
      · rw [same]
        exact commands_open steady loaded
  | some keeping =>
      obtain ⟨written, wrote⟩ := steady.writes keeping kept
      have saved := saved_of_written steady.toProper wrote
      exact saved.load_other plain (by rwa [written?_key wrote]) (commands_open steady loaded)

theorem kept?_after_other (steady : visit.Steady store) (plain : PlainKey key)
    (other : key ≠ shortKey visit.unit.name) :
    store.kept? visit.after key = store.kept? visit.before key := by
  rw [kept?_after steady.toProper plain]
  cases wrote : visit.written? with
  | none => rfl
  | some entry => exact if_neg fun same => other (same.trans (written?_key wrote))

theorem reachable_after (steady : visit.Steady store) (plain : PlainKey key)
    (reachable : store.Reachable visit.before key) : store.Reachable visit.after key := by
  have commands : store.Reachable (visit.plan.freshHost visit.before visit.unit) key :=
    reachable.mono plain (commands_keep steady.toProper key)
      fun entry loaded => commands_open steady loaded
  cases kept : visit.plan.keeping? visit.cache visit.before visit.unit with
  | none =>
      rcases after_unkept kept with same | same
      · rwa [same]
      · rwa [same]
  | some keeping =>
      obtain ⟨entry, wrote⟩ := steady.writes keeping kept
      have saved := saved_of_written steady.toProper wrote
      by_cases own : key = entry.key
      · subst own
        exact saved.reachable plain
      · exact commands.mono plain (saved.kept?_other plain own)
          fun found loaded => saved.load_other plain own loaded

end Visit

/-- The scans of units one after another. -/
def ScanPlan.visits (plan : ScanPlan) (cache : Option Cache) : Host → List BuildUnit → List Visit
  | _, [] => []
  | host, unit :: rest =>
    let visit : Visit := ⟨plan, cache, unit, host⟩
    visit :: plan.visits cache visit.after rest

/-- The machine that such scans leave. -/
def ScanPlan.afterVisits (plan : ScanPlan) (cache : Option Cache) (host : Host)
    (units : List BuildUnit) : Host :=
  units.foldl (fun host unit => (plan.scan cache host unit).2) host

namespace ScanPlan

variable {plan : ScanPlan} {cache : Option Cache} {store : CacheStore} {key : String}

theorem afterVisits_nil (host : Host) : plan.afterVisits cache host [] = host := rfl

theorem afterVisits_cons (host : Host) (unit : BuildUnit) (rest : List BuildUnit) :
    plan.afterVisits cache host (unit :: rest)
      = plan.afterVisits cache (Visit.mk plan cache unit host).after rest := rfl

theorem scanBatch_visits (host : Host) (units : List BuildUnit) :
    Batches.scanBatch (plan.scan cache) host units
      = ((plan.visits cache host units).map Visit.report, plan.afterVisits cache host units) := by
  induction units generalizing host with
  | nil => rfl
  | cons unit rest ih =>
      simp only [Batches.scanBatch, visits, List.map_cons, afterVisits, List.foldl_cons]
      rw [ih]
      rfl

theorem visits_append (host : Host) (units more : List BuildUnit) :
    plan.visits cache host (units ++ more)
      = plan.visits cache host units
        ++ plan.visits cache (plan.afterVisits cache host units) more := by
  induction units generalizing host with
  | nil => rfl
  | cons unit rest ih =>
      simp only [List.cons_append, visits, afterVisits, List.foldl_cons]
      rw [ih]
      rfl

/-- Every scan has its place in the list, and finds the machine that the scans before it left. -/
theorem visits_split {host : Host} {units : List BuildUnit} {visit : Visit}
    (member : visit ∈ plan.visits cache host units) :
    ∃ before rest, units = before ++ visit.unit :: rest
      ∧ visit = ⟨plan, cache, visit.unit, plan.afterVisits cache host before⟩
      ∧ plan.afterVisits cache host units = plan.afterVisits cache visit.after rest := by
  induction units generalizing host with
  | nil => cases member
  | cons unit units ih =>
      rcases List.mem_cons.mp member with rfl | later
      · exact ⟨[], units, rfl, rfl, rfl⟩
      · obtain ⟨before, rest, rfl, made, left⟩ := ih later
        exact ⟨unit :: before, rest, rfl, made, left⟩

theorem visits_load {host : Host} {units : List BuildUnit} (plain : PlainKey key)
    (steady : ∀ visit ∈ plan.visits cache host units, visit.Steady store)
    (others : ∀ unit ∈ units, key ≠ shortKey unit.name) {entry : CacheEntry}
    (loaded : store.load host key = some entry) :
    store.load (plan.afterVisits cache host units) key = some entry := by
  induction units generalizing host with
  | nil => exact loaded
  | cons unit units ih =>
      obtain ⟨steady, later⟩ := List.forall_mem_cons.mp steady
      obtain ⟨other, others⟩ := List.forall_mem_cons.mp others
      rw [afterVisits_cons]
      exact ih later others (Visit.load_after steady plain other loaded)

theorem visits_kept? {host : Host} {units : List BuildUnit} (plain : PlainKey key)
    (steady : ∀ visit ∈ plan.visits cache host units, visit.Steady store)
    (others : ∀ unit ∈ units, key ≠ shortKey unit.name) :
    store.kept? (plan.afterVisits cache host units) key = store.kept? host key := by
  induction units generalizing host with
  | nil => rfl
  | cons unit units ih =>
      obtain ⟨steady, later⟩ := List.forall_mem_cons.mp steady
      obtain ⟨other, others⟩ := List.forall_mem_cons.mp others
      rw [afterVisits_cons, ih later others, Visit.kept?_after_other steady plain other]

theorem visits_reachable {host : Host} {units : List BuildUnit} (plain : PlainKey key)
    (steady : ∀ visit ∈ plan.visits cache host units, visit.Steady store)
    (reachable : store.Reachable host key) :
    store.Reachable (plan.afterVisits cache host units) key := by
  induction units generalizing host with
  | nil => exact reachable
  | cons unit units ih =>
      obtain ⟨steady, later⟩ := List.forall_mem_cons.mp steady
      rw [afterVisits_cons]
      exact ih later (Visit.reachable_after steady plain reachable)

end ScanPlan
end MonorepoCheck
