import Mathlib.Data.Set.Function
import MonorepoCheck.Proofs.Report.Accounting
import MonorepoCheck.Proofs.Scan.History

/-!
The books of a scan: whichever way a fix goes, and also where a kept report is handed out, the report
on a unit is in order. It lists what remains, except where a fix was only estimated.
-/
namespace MonorepoCheck

namespace UnitReport

variable {name : String} {found after : List Diagnostic}

theorem inOrder_markFixed (name : String) (found : List Diagnostic) (fixed : Nat) :
    ((ofDiagnostics name found).markFixed fixed).InOrder where
  balanced := ⟨Nat.min_le_right _ _, rfl⟩
  keyed := Findings.keyed_ofList found

theorem lists_ofDiagnostics (name : String) (found : List Diagnostic) :
    ((ofDiagnostics name found).markFixed 0).Lists := by
  show (Findings.ofList found).toList.length = found.length - min 0 found.length
  rw [(Findings.toList_ofList found).length_eq, Nat.zero_min, Nat.sub_zero]

theorem inOrder_afterRescan (name : String) (found after : List Diagnostic) :
    ((ofDiagnostics name found).afterRescan after).InOrder where
  balanced := by
    have more : after.length ≤ max found.length after.length := Nat.le_max_right _ _
    exact ⟨Nat.sub_le _ _, (Nat.sub_sub_self more).symm⟩
  keyed := Findings.keyed_ofList after

theorem lists_afterRescan (name : String) (found after : List Diagnostic) :
    ((ofDiagnostics name found).afterRescan after).Lists :=
  (Findings.toList_ofList after).length_eq

end UnitReport

namespace ScanPlan

variable {plan : ScanPlan} {host : Host} {unit : BuildUnit}

/-- Whether the plan never has to guess what a fix did. -/
def Measures (plan : ScanPlan) : Prop :=
  plan.settings.remedy.rescan = true ∨ plan.modifiesSources = false

/-- A report that a scan under the plan may give on the unit. -/
structure Accounts (plan : ScanPlan) (unit : BuildUnit) (report : UnitReport) : Prop where
  named : report.unit = unit.name
  inOrder : report.InOrder
  lists : plan.Measures → report.Lists

/-- What a fix may come to. It is estimated only if sources may change and nobody looks again. -/
inductive RemedyEnds (plan : ScanPlan) (before : Nat) : RemedyOutcome → Prop where
  | idle (notes : List String) : RemedyEnds plan before (.idle notes)
  | estimated (guesses : ¬ plan.Measures) : RemedyEnds plan before (.estimated plan.level before)
  | measured (after : Collection) : RemedyEnds plan before (.measured before after)

/-- A plan that runs a fix and does not look again has to guess what the fix did. -/
theorem Runs.guesses {before : List Diagnostic} {fix : Invocation} (runs : plan.Runs unit before fix)
    (blind : plan.settings.remedy.rescan = false) : ¬ plan.Measures := by
  have modifies : plan.modifiesSources = true := by
    simp [modifiesSources, runs.real, runs.level]
  rintro (rescans | idle)
  · simp [rescans] at blind
  · simp [modifies] at idle

theorem applyRemedy_ends (before : List Diagnostic) :
    RemedyEnds plan before.length (plan.applyRemedy host unit before).1 := by
  obtain ⟨commands, course, -⟩ := plan.applyRemedy_course host unit before
  generalize (plan.applyRemedy host unit before).1 = remedy at course
  cases course with
  | needless => exact .idle []
  | announced => exact .idle _
  | failed => exact .idle _
  | guessed runs _ blind => exact .estimated (runs.guesses blind)
  | measured => exact .measured _

/-- Whatever a fix comes to, the books balance. -/
theorem report_accounts (collection : Collection) {remedy : RemedyOutcome}
    (ends : RemedyEnds plan collection.found.length remedy) :
    plan.Accounts unit (report unit collection remedy) := by
  have idle (notes : List String) : plan.Accounts unit (report unit collection (.idle notes)) := by
    constructor
    case named => rfl
    case inOrder =>
        have books := UnitReport.inOrder_markFixed unit.name collection.found 0
        exact ⟨books.balanced, books.keyed⟩
    case lists => exact fun _ => UnitReport.lists_ofDiagnostics unit.name collection.found
  -- only a guess may miss the list of findings, and a plan that measures does not guess
  cases ends with
  | idle notes => exact idle notes
  | estimated guesses =>
      constructor
      case named => rfl
      case inOrder =>
          have books := UnitReport.inOrder_markFixed unit.name collection.found
            (plan.level.estimate collection.found.length)
          exact ⟨books.balanced, books.keyed⟩
      case lists => exact fun measures => absurd measures guesses
  | measured after =>
      rw [RemedyOutcome.measured]
      split
      · exact idle _
      · constructor
        case named => rfl
        case inOrder =>
            have books := UnitReport.inOrder_afterRescan unit.name collection.found after.found
            exact ⟨books.balanced, books.keyed⟩
        case lists =>
            exact fun _ => UnitReport.lists_afterRescan unit.name collection.found after.found

theorem freshReport_accounts (plan : ScanPlan) (host : Host) (unit : BuildUnit) :
    plan.Accounts unit (plan.freshReport host unit) :=
  report_accounts _ (applyRemedy_ends _)

end ScanPlan

/-- A machine whose store holds, under the keys of units, only what scans of these units wrote. `units`
are the names of the units of a workspace. -/
structure CacheStore.Genuine (store : CacheStore) (units : Set String) (host : Host) : Prop where
  written : ∀ key, PlainKey key → ∀ entry, store.kept? host key = some entry →
    ∃ writer : Visit, writer.written? = some entry ∧ writer.unit.name ∈ units
      ∧ shortKey writer.unit.name = key

namespace Visit

variable {store : CacheStore} {units : Set String} {visit : Visit}

/-- A kept report is as good as a new one: it was made under the same options, without a fix. -/
theorem report_accounts (genuine : store.Genuine units visit.before)
    (shared : ∀ cache, visit.cache = some cache → cache.store = store)
    (known : visit.unit.name ∈ units) (apart : units.InjOn shortKey) :
    visit.plan.Accounts visit.unit visit.report := by
  cases found : visit.plan.keptReport? visit.cache visit.before visit.unit with
  | none =>
      rw [report_missed found]
      exact ScanPlan.freshReport_accounts visit.plan visit.before visit.unit
  | some report =>
      obtain ⟨readOnly, cache, entry, cached, loaded, fresh, rfl⟩ :=
        ScanPlan.keptReport?_some found
      rw [shared cache cached] at loaded
      have plain : PlainKey (shortKey visit.unit.name) := .shortKey _
      obtain ⟨writer, written, named, keyed⟩ :=
        genuine.written _ plain entry (CacheStore.kept?_of_load plain loaded)
      have sameUnit : writer.unit.name = visit.unit.name := apart named known keyed
      obtain ⟨keeping, kept, rfl⟩ := written?_some written
      obtain ⟨_, _, _, made⟩ := ScanPlan.keeping?_some kept
      obtain ⟨level, dryRun, _⟩ := ScanPlan.fingerprint_injective (Cache.isFresh_iff.mp fresh).1
      have books : writer.plan.Accounts writer.unit keeping.report := by
        rw [made]
        exact ScanPlan.freshReport_accounts writer.plan writer.before writer.unit
      have idle : writer.plan.modifiesSources = false := by
        rw [ScanPlan.modifiesSources, level, dryRun]
        exact readOnly
      rw [Visit.report, ScanPlan.scan_served found]
      constructor
      case named => exact books.named.trans sameUnit
      case inOrder => exact ⟨books.inOrder.balanced, books.inOrder.keyed⟩
      case lists => exact fun _ => books.lists (.inr idle)

/-- A scan adds nothing to a store but what it wrote itself. -/
theorem genuine_after (genuine : store.Genuine units visit.before)
    (shared : ∀ cache, visit.cache = some cache → cache.store = store)
    (known : visit.unit.name ∈ units)
    (commands : ∀ invocation host, store.Genuine units host →
      store.Genuine units (visit.plan.runner invocation host).2) :
    store.Genuine units visit.after := by
  -- commands come first and keep the store genuine; saving is the only other thing done to it
  have asked : store.Genuine units (visit.plan.freshHost visit.before visit.unit) :=
    ScanPlan.freshHost_preserves (store.Genuine units)
      (fun invocation host held => commands invocation _ ⟨held.written⟩) genuine
  cases kept : visit.plan.keeping? visit.cache visit.before visit.unit with
  | none =>
      rcases after_unkept kept with same | same
      · exact same ▸ genuine
      · exact same ▸ asked
  | some keeping =>
      obtain ⟨_, cached, _, made⟩ := ScanPlan.keeping?_some kept
      have own := shared _ cached
      have after := after_kept kept
      rw [own] at after
      have at' : store.Genuine units keeping.host := by rw [made]; exact asked
      have parts : store.save keeping.host keeping.host.token (keeping.entry visit.plan visit.unit)
          = (visit.after, (store.save keeping.host keeping.host.token
              (keeping.entry visit.plan visit.unit)).2) := by
        rw [after]
      rcases CacheStore.save_spec (.shortKey visit.unit.name) parts with
        ⟨went, saved⟩ | ⟨_, unsaved⟩
      · constructor
        intro key plain entry stands
        by_cases same : key = (keeping.entry visit.plan visit.unit).key
        · rw [same, saved.kept?_self] at stands
          split at stands
          · obtain rfl := Option.some.inj stands
            exact ⟨visit, written?_of_kept kept (by rw [own]; exact went), known, same.symm⟩
          · cases stands
        · rw [saved.kept?_other plain same] at stands
          exact at'.written key plain entry stands
      · constructor
        intro key plain entry stands
        rw [unsaved.kept?_eq plain] at stands
        exact at'.written key plain entry stands

end Visit
end MonorepoCheck
