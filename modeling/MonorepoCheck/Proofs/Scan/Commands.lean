import MonorepoCheck.Proofs.Cache.Store
import MonorepoCheck.Proofs.Scan.Remedied

/-!
What a scan does, one thing after another: it asks for nothing, for the checker, for the fix after
that, and for the checker again, each only if there is reason to; then it keeps its report, once, or
not at all.
-/
namespace MonorepoCheck

theorem CacheStore.OnlyFiles.history {host later : Host} (only : OnlyFiles host later) :
    later.history = host.history := by
  rw [show later = { host with files := later.files } from only]

theorem Cache.record_history (cache : Cache) (host : Host) (unit : BuildUnit) (fingerprint : String)
    (report : UnitReport) : (cache.record host unit fingerprint report).history = host.history := by
  rw [record]
  generalize saves : cache.store.save host host.token _ = saved
  obtain ⟨later, result⟩ := saved
  rcases CacheStore.save_spec (.shortKey unit.name) saves with ⟨-, done⟩ | ⟨-, left⟩
  · exact done.only.history
  · exact left.only.history

namespace ScanPlan

variable {plan : ScanPlan} {cache : Option Cache} {host : Host} {unit : BuildUnit}
  {before : List Diagnostic} {commands : List Invocation} {remedy : RemedyOutcome}

/-- One thing that a scan does to the machine. -/
inductive Act where
  | ask (invocation : Invocation)
  | keep (cache : Cache) (report : UnitReport)

/-- The machine after such acts on a unit, one after another. -/
def perform (plan : ScanPlan) (unit : BuildUnit) (host : Host) (acts : List Act) : Host :=
  acts.foldl (fun host act =>
    match act with
    | .ask invocation => (host.run plan.runner invocation).2
    | .keep cache report => cache.record host unit plan.fingerprint report) host

theorem perform_asks (plan : ScanPlan) (unit : BuildUnit) (host : Host)
    (commands : List Invocation) (kept : List Act) :
    plan.perform unit host (commands.map .ask ++ kept)
      = plan.perform unit (host.runAll plan.runner commands) kept := by
  rw [perform, List.foldl_append, List.foldl_map]
  rfl

/-- What a scan did: it asked for these commands, one after another, and then kept its report, once,
where a cache is there, nothing was handed out from it and the first collection is whole. -/
structure Performs (plan : ScanPlan) (cache : Option Cache) (host : Host) (unit : BuildUnit)
    (commands : List Invocation) (kept : List Act) : Prop where
  left : (plan.scan cache host unit).2 = plan.perform unit host (commands.map .ask ++ kept)
  noted : (plan.scan cache host unit).2.history = host.history ++ commands
  keeps : ∀ store, cache = some store → (plan.scan cache host unit).1.fromCache = false →
    (plan.collect host unit).1.degraded = none →
    kept = [.keep store (plan.scan cache host unit).1]
  keepsNothing : cache = none ∨ (plan.scan cache host unit).1.fromCache = true
    ∨ (plan.collect host unit).1.degraded ≠ none → kept = []

/-- Which commands a scan asks for. -/
structure Asks (plan : ScanPlan) (cache : Option Cache) (host : Host) (unit : BuildUnit)
    (commands : List Invocation) : Prop where
  sequence : commands ∈ [[], [plan.checkerInvocation unit]]
    ∨ ∃ fix, plan.fixInvocation? unit = some fix
      ∧ commands ∈ [[plan.checkerInvocation unit, fix],
          [plan.checkerInvocation unit, fix, plan.checkerInvocation unit]]
  silent : commands = [] ↔
    (plan.scan cache host unit).1.fromCache = true ∨ host.isFileAt unit.configuration = false
  /-- the fix follows a check that came to its end and found something that passes the filter -/
  fixes : 2 ≤ commands.length ↔
    commands ≠ [] ∧ plan.level ≠ .none ∧ plan.dryRun = false
      ∧ ∃ success code output checked,
        host.run plan.runner (plan.checkerInvocation unit)
            = (.completed success code output, checked)
          ∧ ∃ d ∈ plan.reported checked unit (.completed success code output),
            plan.filter.accepts d = true
  /-- the second check follows a fix that went through and left the build configuration -/
  again : 3 ≤ commands.length ↔
    2 ≤ commands.length ∧ plan.settings.remedy.rescan = true
      ∧ ∃ fix, plan.fixInvocation? unit = some fix
        ∧ let checked := (host.run plan.runner (plan.checkerInvocation unit)).2
          (checked.run plan.runner fix).1.succeeded = true
            ∧ (checked.run plan.runner fix).2.isFileAt unit.configuration = true

theorem runs_iff : (∃ fix, plan.Runs unit before fix) ↔
    plan.level ≠ .none ∧ plan.dryRun = false ∧ before ≠ [] := by
  constructor
  · rintro ⟨fix, runs⟩
    exact ⟨runs.level, runs.real, runs.found⟩
  · rintro ⟨level, real, found⟩
    have some' : plan.fixInvocation? unit ≠ none := fun none' =>
      level (fixInvocation?_eq_none_iff.mp none')
    obtain ⟨fix, fixes⟩ := Option.ne_none_iff_exists'.mp some'
    exact ⟨fix, fixes, found, real⟩

theorem Course.asks_iff (course : plan.Course host unit before commands remedy) :
    commands ≠ [] ↔ ∃ fix, plan.Runs unit before fix := by
  constructor
  · intro some'
    by_contra idle
    exact some' (course.of_idle idle)
  · rintro ⟨fix, runs⟩
    rcases course.of_runs runs with ⟨-, asked, -⟩ | ⟨-, -, asked, -⟩ | ⟨-, -, asked, -⟩ <;>
      exact asked ▸ List.cons_ne_nil _ _

/-- A fix that is run is asked for once, and the unit is checked again if it went through, is to be
measured and has left the build configuration. -/
theorem Course.asks {fix : Invocation} (course : plan.Course host unit before commands remedy)
    (runs : plan.Runs unit before fix) :
    (commands = [fix] ∨ commands = [fix, plan.checkerInvocation unit])
      ∧ (2 ≤ commands.length ↔ plan.settings.remedy.rescan = true
        ∧ (host.run plan.runner fix).1.succeeded = true
        ∧ (host.run plan.runner fix).2.isFileAt unit.configuration = true) := by
  rcases course.of_runs runs with ⟨failed, rfl, -⟩ | ⟨-, blind, rfl, -⟩ | ⟨went, rescans, rfl, -⟩
  · simp [failed]
  · simp [blind]
  · rw [checks]
    cases present : (host.run plan.runner fix).2.isFileAt unit.configuration <;> simp [went, rescans]

theorem accepted_iff (present : host.isFileAt unit.configuration = true) :
    plan.accepted host unit ≠ [] ↔ ∃ success code output checked,
      host.run plan.runner (plan.checkerInvocation unit)
          = (.completed success code output, checked)
        ∧ ∃ d ∈ plan.reported checked unit (.completed success code output),
          plan.filter.accepts d = true := by
  rw [accepted, if_pos present]
  generalize host.run plan.runner (plan.checkerInvocation unit) = ended
  obtain ⟨outcome, checked⟩ := ended
  dsimp only
  rw [Ne, List.filter_eq_nil_iff]
  push Not
  constructor
  · rintro ⟨d, member, accepts⟩
    -- only a checker that came to its end reports anything
    cases outcome with
    | completed success code output => exact ⟨_, _, _, _, rfl, d, member, accepts⟩
    | timedOut => cases member
    | failedToStart => cases member
  · rintro ⟨success, code, output, later, ended, d, member, accepts⟩
    obtain ⟨rfl, rfl⟩ := Prod.mk.inj ended
    exact ⟨d, member, accepts⟩

/-- What a scan keeps that no kept report stands in for. -/
def keepsAnew (plan : ScanPlan) (cache : Option Cache) (host : Host) (unit : BuildUnit) : List Act :=
  match cache, (plan.collect host unit).1.degraded with
  | some cache, none => [.keep cache (plan.freshReport host unit)]
  | _, _ => []

theorem scan_performed (missed : plan.keptReport? cache host unit = none) :
    (plan.scan cache host unit).2
      = plan.perform unit (plan.freshHost host unit) (plan.keepsAnew cache host unit) := by
  rw [scan, missed]
  simp only [scanAnew, keepsAnew, freshHost, freshReport]
  cases cache with
  | none => rfl
  | some cache =>
      cases degraded : (plan.collect host unit).1.degraded with
      | none => rfl
      | some reason => rfl

theorem keepsAnew_history (plan : ScanPlan) (cache : Option Cache) (host : Host) (unit : BuildUnit)
    (later : Host) :
    (plan.perform unit later (plan.keepsAnew cache host unit)).history = later.history := by
  unfold keepsAnew
  split
  · exact Cache.record_history _ later unit _ _
  · rfl

theorem asks_nothing
    (idle : (plan.scan cache host unit).1.fromCache = true
      ∨ host.isFileAt unit.configuration = false) : plan.Asks cache host unit [] where
  sequence := .inl List.mem_cons_self
  silent := iff_of_true rfl idle
  fixes := iff_of_false (by decide) fun some' => some'.1 rfl
  again := iff_of_false (by decide) fun some' => absurd some'.1 (by decide)

section Missed

variable (missed : plan.keptReport? cache host unit = none)

include missed

theorem scan_fromCache : (plan.scan cache host unit).1.fromCache = false := by
  rw [scan_missed missed, freshReport_fromCache]

theorem performs_anew
    (honest : ∀ invocation host, (plan.runner invocation host).2.history = host.history)
    (ran : plan.freshHost host unit = host.runAll plan.runner commands) :
    plan.Performs cache host unit commands (plan.keepsAnew cache host unit) where
  left := by rw [scan_performed missed, ran, perform_asks]
  noted := by rw [scan_performed missed, keepsAnew_history, ran, Host.runAll_history honest]
  keeps := by
    rintro store rfl - whole
    unfold keepsAnew
    rw [scan_missed missed, whole]
  keepsNothing := by
    unfold keepsAnew
    rintro (rfl | kept | degraded)
    · rfl
    · exact absurd (kept.symm.trans (scan_fromCache missed)) (by decide)
    · split
      · rename_i whole
        exact absurd whole degraded
      · rfl

/-- A unit with its build configuration is checked, and then comes what its fix takes. -/
theorem asks_checked (present : host.isFileAt unit.configuration = true)
    (course : plan.Course (host.run plan.runner (plan.checkerInvocation unit)).2 unit
      (plan.accepted host unit) commands remedy) :
    plan.Asks cache host unit (plan.checkerInvocation unit :: commands) where
  sequence := by
    by_cases asked : commands = []
    · rw [asked]
      exact .inl (List.mem_cons_of_mem _ List.mem_cons_self)
    · obtain ⟨fix, runs⟩ := course.asks_iff.mp asked
      refine .inr ⟨fix, runs.fixes, ?_⟩
      rcases (course.asks runs).1 with rfl | rfl
      · exact List.mem_cons_self
      · exact List.mem_cons_of_mem _ List.mem_cons_self
  silent := by
    refine iff_of_false (List.cons_ne_nil _ _) ?_
    rw [scan_fromCache missed, present]
    decide
  fixes := by
    have asked : 2 ≤ (plan.checkerInvocation unit :: commands).length ↔ commands ≠ [] := by
      rw [List.length_cons, ← List.length_pos_iff]
      omega
    rw [asked, course.asks_iff, runs_iff, accepted_iff present]
    exact (and_iff_right (List.cons_ne_nil _ _)).symm
  again := by
    have asked : 3 ≤ (plan.checkerInvocation unit :: commands).length ↔ 2 ≤ commands.length := by
      rw [List.length_cons]
      omega
    -- the fix that is asked for is the only one that the plan has
    have fixed {fix : Invocation} (fixes : plan.fixInvocation? unit = some fix)
        (some' : commands ≠ []) : plan.Runs unit (plan.accepted host unit) fix := by
      obtain ⟨other, runs⟩ := course.asks_iff.mp some'
      rwa [Option.some.inj (fixes.symm.trans runs.fixes)]
    rw [asked]
    constructor
    · intro twice
      obtain ⟨fix, runs⟩ := course.asks_iff.mp (List.length_pos_iff.mp (by omega))
      obtain ⟨rescans, went, left⟩ := (course.asks runs).2.mp twice
      exact ⟨by rw [List.length_cons]; omega, rescans, fix, runs.fixes, went, left⟩
    · rintro ⟨once, rescans, fix, fixes, went, left⟩
      rw [List.length_cons] at once
      have runs := fixed fixes (List.length_pos_iff.mp (by omega))
      exact (course.asks runs).2.mpr ⟨rescans, went, left⟩

end Missed

/-- A scan asks for nothing, for a check, for a check and a fix, or for both and another check. It
asks for nothing where a kept report stands in or the build configuration is missing; it keeps its
report once, or not at all. -/
theorem scan_protocol (plan : ScanPlan) (cache : Option Cache) (host : Host) (unit : BuildUnit)
    (honest : ∀ invocation host, (plan.runner invocation host).2.history = host.history) :
    ∃ commands kept, plan.Performs cache host unit commands kept
      ∧ plan.Asks cache host unit commands := by
  cases found : plan.keptReport? cache host unit with
  | some report =>
      have told : plan.scan cache host unit = (report, host) := scan_served found
      have served : (plan.scan cache host unit).1.fromCache = true := by
        obtain ⟨-, cache', entry, -, -, -, rfl⟩ := keptReport?_some found
        rw [told]
      exact ⟨[], [], {
        left := congrArg Prod.snd told
        noted := (congrArg (Host.history ∘ Prod.snd) told).trans (List.append_nil _).symm
        keeps := fun store _ fresh _ => absurd (served.symm.trans fresh) (by decide)
        keepsNothing := fun _ => rfl }, asks_nothing (.inl served)⟩
  | none =>
      obtain ⟨more, course, left⟩ :=
        plan.applyRemedy_course (plan.collect host unit).2 unit (plan.accepted host unit)
      have ran : plan.freshHost host unit
          = host.runAll plan.runner (plan.checks host unit ++ more) := by
        rw [Host.runAll_append, ← collect_host, ← left, ← collect_found]
        rfl
      refine ⟨_, _, performs_anew found honest ran, ?_⟩
      cases present : host.isFileAt unit.configuration with
      | true =>
          rw [collect_host, checks, if_pos present] at course
          rw [checks, if_pos present]
          exact asks_checked found present course
      | false =>
          have nothing : plan.accepted host unit = [] := by rw [accepted, present]; rfl
          have idle : more = [] := by
            apply course.of_idle
            rintro ⟨fix, runs⟩
            exact runs.found nothing
          rw [checks, present, idle]
          exact asks_nothing (.inr present)

end ScanPlan

namespace Remedied

def cache : Cache := .ofSettings ⟨⟨"/c"⟩⟩ plan.settings

/-- The unit is checked, fixed and checked again, and what came of it is kept. -/
theorem fixed_between_checks :
    (∀ invocation host, (plan.runner invocation host).2.history = host.history)
      ∧ (plan.scan (some cache) host unit).2.history
        = [plan.checkerInvocation unit, fix, plan.checkerInvocation unit]
      ∧ ∃ later, (plan.scan (some cache) host unit).2
        = cache.record later unit plan.fingerprint (plan.scan (some cache) host unit).1 := by
  have honest : ∀ invocation host, (plan.runner invocation host).2.history = host.history := by
    intro invocation host
    simp only [plan, runner]
    split <;> rfl
  have missed : plan.keptReport? (some cache) host unit = none := rfl
  obtain ⟨commands, kept, performs, asks⟩ := plan.scan_protocol (some cache) host unit honest
  have fresh := ScanPlan.scan_fromCache missed
  have three : 3 ≤ commands.length := by
    refine asks.again.mpr ⟨asks.fixes.mpr ⟨?_, by decide, rfl, ?_⟩, rfl, fix, by decide +kernel,
      by decide +kernel, by decide +kernel⟩
    · rw [Ne, asks.silent, fresh]
      decide +kernel
    · exact (ScanPlan.accepted_iff (by decide +kernel)).mp (by rw [accepted_first]; decide)
  have all : commands = [plan.checkerInvocation unit, fix, plan.checkerInvocation unit] := by
    rcases asks.sequence with short | ⟨other, fixes, asked⟩
    · simp only [List.mem_cons, List.not_mem_nil, or_false] at short
      rcases short with rfl | rfl <;> simp at three
    · have same : plan.fixInvocation? unit = some fix := by decide +kernel
      obtain rfl := Option.some.inj (same.symm.trans fixes)
      simp only [List.mem_cons, List.not_mem_nil, or_false] at asked
      rcases asked with rfl | rfl
      · simp at three
      · rfl
  refine ⟨honest, performs.noted.trans (all ▸ rfl), host.runAll plan.runner commands, ?_⟩
  rw [performs.left, ScanPlan.perform_asks, performs.keeps cache rfl fresh (by decide +kernel)]
  rfl

end Remedied

end MonorepoCheck
