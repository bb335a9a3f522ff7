import MonorepoCheck.Proofs.Advice.Enriched
import MonorepoCheck.Proofs.Cache.Room
import MonorepoCheck.Proofs.Run.Accounting

/-!
Advice and what is kept. A run asks for advice when its reports are kept already, so that no report in
the cache ever holds any, however many runs there were and whatever their models answered.
-/
namespace MonorepoCheck

open Advice (mark)

/-- A report without advice: none of its suggestions bears the mark. -/
def UnitReport.Unadvised (report : UnitReport) : Prop :=
  ∀ d ∈ report.diagnostics, ∀ text ∈ d.suggestions.getD [], ¬ mark.toList <+: text.toList

/-- Two characters tell other suggestions from advice. -/
theorem unmarked_of_start {text : List Char} (other : text.take 2 ≠ ['A', 'I']) :
    ¬ mark.toList <+: (String.ofList text).toList := by
  rw [String.toList_ofList]
  rintro ⟨rest, rfl⟩
  exact other rfl

theorem hintsFor_unmarked (code : String) :
    ∀ hint ∈ hintsFor code, ¬ mark.toList <+: hint.toList := by
  unfold hintsFor
  split
  all_goals
    simp only [List.forall_mem_cons, List.not_mem_nil, false_imp_iff, implies_true, and_true]
    and_intros
  all_goals exact unmarked_of_start (by decide)

namespace ScanPlan

variable {plan : ScanPlan} {host : Host} {unit : BuildUnit} {d : Diagnostic}

/-- What a collection finds has the hints for its code, or no suggestion. -/
theorem suggestions_collect (member : d ∈ (plan.collect host unit).1.found) :
    d.suggestions = none ∨ d.suggestions = some (hintsFor d.code) := by
  rw [collect_found, accepted] at member
  split at member
  · obtain ⟨line, _, rfl⟩ := List.mem_map.mp (List.mem_of_mem_filter member)
    by_cases hints : plan.settings.attachHints = true
    · exact .inr (if_pos hints)
    · exact .inl (if_neg hints)
  · cases member

theorem diagnostics_report {collection : Collection} {remedy : RemedyOutcome}
    (member : d ∈ (report unit collection remedy).diagnostics) :
    d ∈ remedy.remaining.getD collection.found := by
  have listed (found : List Diagnostic) : d ∈ (Findings.ofList found).toList → d ∈ found :=
    (Findings.toList_ofList found).mem_iff.mp
  cases after : remedy.remaining with
  | none =>
      simp only [report, after] at member
      exact listed _ member
  | some remaining =>
      simp only [report, after] at member
      exact listed _ member

/-- A report lists what the collection found, or what a second one found after the fix. -/
theorem diagnostics_freshReport (member : d ∈ (plan.freshReport host unit).diagnostics) :
    ∃ seen, d ∈ (plan.collect seen unit).1.found := by
  have listed : d ∈ (plan.applyRemedy (plan.collect host unit).2 unit
      (plan.collect host unit).1.found).1.remaining.getD (plan.collect host unit).1.found :=
    diagnostics_report member
  obtain ⟨commands, course, -⟩ := plan.applyRemedy_course (plan.collect host unit).2 unit
    (plan.collect host unit).1.found
  generalize (plan.applyRemedy (plan.collect host unit).2 unit (plan.collect host unit).1.found).1
    = remedy at course listed
  cases course with
  | needless => exact ⟨host, listed⟩
  | announced => exact ⟨host, listed⟩
  | failed => exact ⟨host, listed⟩
  | guessed => exact ⟨host, listed⟩
  | measured =>
      rw [RemedyOutcome.measured] at listed
      split at listed
      · exact ⟨host, listed⟩
      · exact ⟨_, listed⟩

theorem freshReport_unadvised (plan : ScanPlan) (host : Host) (unit : BuildUnit) :
    (plan.freshReport host unit).Unadvised := by
  intro d member text suggested
  obtain ⟨seen, found⟩ := diagnostics_freshReport member
  rcases suggestions_collect found with none' | hints
  · simp [none'] at suggested
  · rw [hints] at suggested
    exact hintsFor_unmarked d.code text suggested

end ScanPlan

section Kept

variable {store : CacheStore} {units : Set String} {host : Host} {key : String} {entry : CacheEntry}

theorem CacheStore.Genuine.unadvised (genuine : store.Genuine units host) (plain : PlainKey key)
    (kept : store.kept? host key = some entry) : entry.report.Unadvised := by
  obtain ⟨writer, written, -⟩ := genuine.written key plain entry kept
  obtain ⟨keeping, keeps, rfl⟩ := Visit.written?_some written
  obtain ⟨-, -, -, made⟩ := ScanPlan.keeping?_some keeps
  have fresh := writer.plan.freshReport_unadvised writer.before writer.unit
  rw [show writer.plan.freshReport writer.before writer.unit = keeping.report by rw [made]] at fresh
  exact fresh

/-- Scans one after another leave a store genuine. -/
theorem ScanPlan.genuine_afterVisits {plan : ScanPlan} {cache : Option Cache}
    (genuine : store.Genuine units host)
    (shared : ∀ other, cache = some other → other.store = store)
    (commands : ∀ invocation host, store.Genuine units host →
      store.Genuine units (plan.runner invocation host).2)
    {order : List BuildUnit} (known : ∀ unit ∈ order, unit.name ∈ units) :
    store.Genuine units (plan.afterVisits cache host order) := by
  induction order generalizing host with
  | nil => exact genuine
  | cons unit rest ih =>
      obtain ⟨here, later⟩ := List.forall_mem_cons.mp known
      rw [afterVisits_cons]
      let visit : Visit := ⟨plan, cache, unit, host⟩
      exact ih (visit.genuine_after genuine shared here commands) later

end Kept

namespace Run

section Execute

variable {σ : Type} {settings : Settings} {options : RunOptions} {runner : Runner}
  {model : Advice.Model σ} {host done : Host} {state last : σ} {outcome : RunOutcome}

/-- Asking for advice leaves the machine alone. -/
theorem execute_host (settings : Settings) (options : RunOptions) (runner : Runner)
    (model : Advice.Model σ) (host : Host) (state : σ) :
    (execute settings options runner model host state).map (fun ran => ran.2.1)
      = (scan settings options runner host).map Prod.snd := by
  rw [execute]
  cases scan settings options runner host with
  | error failure => rfl
  | ok scanned =>
      simp only [bind, Except.bind]
      split <;> rfl

theorem execute_ok
    (ran : execute settings options runner model host state = .ok (outcome, done, last)) :
    ∃ scanned, scan settings options runner host = .ok (scanned, done)
      ∧ outcome.root = scanned.root := by
  rw [execute] at ran
  cases scanned : scan settings options runner host with
  | error failure =>
      rw [scanned] at ran
      cases ran
  | ok result =>
      rw [scanned] at ran
      simp only [bind, Except.bind] at ran
      split at ran
      · obtain ⟨rfl, same⟩ := Prod.mk.inj (Except.ok.inj ran)
        obtain ⟨rfl, _⟩ := Prod.mk.inj same
        exact ⟨result.1, rfl, rfl⟩
      · obtain ⟨rfl, same⟩ := Prod.mk.inj (Except.ok.inj ran)
        obtain ⟨rfl, _⟩ := Prod.mk.inj same
        exact ⟨result.1, rfl, rfl⟩

end Execute

/-- Runs one after another that share a store, and the machine after them. They began with an empty
store; commands, and whatever happens between runs, put no entry into it. -/
inductive Executed (store : CacheStore) : Host → Prop where
  | start {host : Host} (empty : ∀ key, store.kept? host key = none) : Executed store host
  | change {host later : Host} (past : Executed store host)
      (apart : ∀ key entry, store.kept? later key = some entry → store.kept? host key = some entry) :
      Executed store later
  | run {σ : Type} {settings : Settings} {options : RunOptions} {runner : Runner}
      {model : Advice.Model σ} {host done : Host} {state last : σ} {outcome : RunOutcome}
      (past : Executed store host)
      (ran : execute settings options runner model host state = .ok (outcome, done, last))
      (shared : storeOf settings host outcome.root = store)
      (apart : ∀ invocation host key entry,
        store.kept? (runner invocation host).2 key = some entry →
          store.kept? host key = some entry) : Executed store done

theorem Executed.genuine {store : CacheStore} {host : Host} (past : Executed store host) :
    store.Genuine Set.univ host := by
  induction past with
  | start empty => exact ⟨fun key _ entry kept => by simp [empty] at kept⟩
  | change _ apart ih =>
      exact ⟨fun key plain entry kept => ih.written key plain entry (apart key entry kept)⟩
  | @run σ settings options runner model host done state last outcome _ ran shared apart ih =>
      obtain ⟨scanned, went, root⟩ := execute_ok ran
      obtain ⟨-, -, -, progress, whole, -⟩ := scan_ok went
      obtain ⟨first, scans⟩ := scanAll_scans settings options runner host scanned.root
        scanned.schedule
      have left := scans.left
      rw [whole] at left
      rw [show done = _ from left]
      apply ScanPlan.genuine_afterVisits ih
      · intro cache cached
        rw [cache?_store cached, ← root, shared]
      · intro invocation host held
        exact ⟨fun key plain entry kept => held.written key plain entry
          (apart invocation host key entry kept)⟩
      · exact fun _ _ => Set.mem_univ _

/-- Advice is only ever added to suggestions, and only in what a run hands out: the machine, and with it
the cache, is as the scan left it, and after any runs no report that is kept holds advice. -/
theorem advice_only_added :
    (∀ (σ : Type) (settings : AdviceSettings) (model : Advice.Model σ) (report : RunReport) (state : σ),
      ∃ log, Advice.Enriches settings report (Advice.enrich settings model report state).1
          (Advice.enrich settings model report state).2.1 log
        ∧ Advice.enrich settings (Advice.recording model) report (state, [])
          = ((Advice.enrich settings model report state).1,
              (Advice.enrich settings model report state).2.1,
              (Advice.enrich settings model report state).2.2, log))
      ∧ (∀ (σ : Type) (settings : Settings) (options : RunOptions) (runner : Runner)
          (model : Advice.Model σ) (host : Host) (state : σ),
        (execute settings options runner model host state).map (fun ran => ran.2.1)
          = (scan settings options runner host).map Prod.snd)
      ∧ ∀ (store : CacheStore) (host : Host), Executed store host → ∀ key, PlainKey key →
          ∀ entry, store.kept? host key = some entry → entry.report.Unadvised := by
  refine ⟨?_, ?_, ?_⟩
  · intro σ settings model report state
    exact Advice.enrich_enriches settings model report state
  · intro σ settings options runner model host state
    exact execute_host settings options runner model host state
  · intro store host past key plain entry kept
    exact past.genuine.unadvised plain kept

/-! A run that gets advice on the one thing that its checker found, and keeps its report without. -/
namespace Advised

open Revisit (unit runner host checked entry)

def settings : Settings :=
  { Revisit.plan.settings with
    configurationFile := "t.json"
    cache := ⟨true, true, some ⟨"/c"⟩⟩
    advice := { Settings.defaultAdvice with enabled := true, provider := .ollama } }

def options : RunOptions := { root := ⟨"/w"⟩ }

/-- The model has one piece of advice, and counts how often it is asked. -/
def model : Advice.Model Nat := fun _ asked =>
  (.answered 200 "\x7b\"response\": \" Declare it. \"\x7d", asked + 1)

def plan : ScanPlan := Run.plan settings options runner ⟨"/w"⟩

def store : CacheStore := ⟨⟨"/c/d1bb8ca354673cd575d31d952490058c"⟩⟩

def cache : Cache := .ofSettings store settings

def visit : Visit := ⟨plan, some cache, unit, host⟩

theorem located : storeOf settings host ⟨"/w"⟩ = store := by decide +kernel

theorem host_seen :
    (Workspace.inDirectory host ⟨"/w"⟩).toOption = some ⟨⟨"/w"⟩⟩
      ∧ (Workspace.mk ⟨"/w"⟩).units host settings = [unit]
      ∧ (scheduleOf settings host ⟨"/w"⟩).order = [unit]
      ∧ host.isFileAt unit.configuration = true := by
  decide +kernel

theorem visit_seen :
    plan.keptReport? (some cache) host unit = none
      ∧ (plan.collect host unit).1.degraded = none
      ∧ ScanPlan.Keeping.entry ⟨cache, checked, plan.freshReport host unit⟩ plan unit = entry := by
  decide +kernel

theorem entry_saved : (store.save checked checked.token entry).2 = .ok () := by
  have room : store.Room checked entry.key checked.token := by decide +kernel
  rw [CacheStore.save_of_room Revisit.entry_plain (by constructor <;> decide) room]

theorem visit_written : visit.written? = some entry := by
  obtain ⟨missed, whole, made⟩ := visit_seen
  have left : plan.freshHost host unit = checked := by
    rw [ScanPlan.freshHost_readOnly rfl, ScanPlan.collect_of_file host_seen.2.2.2]
    rfl
  have kept := ScanPlan.keeping?_of_whole missed whole
  rw [left] at kept
  have written := @Visit.written?_of_kept visit _ kept
  rw [show ScanPlan.Keeping.entry ⟨cache, checked, plan.freshReport host unit⟩ visit.plan visit.unit
    = entry from made] at written
  exact written entry_saved

theorem visit_proper : visit.Proper store where
  storeShared := by
    intro other found
    obtain rfl := Option.some.inj found
    rfl
  storeOwned := fun _ _ _ => rfl

theorem visit_kept : store.kept? visit.after entry.key = some entry := by
  have saved := Visit.saved_of_written visit_proper visit_written
  rw [saved.kept?_self, if_pos (by decide)]

/-- The outcome before there is advice. -/
def outcome : RunOutcome :=
  outcomeOf ⟨"/w"⟩ (scheduleOf settings host ⟨"/w"⟩) ⟨.ofUnits [entry.report], 1, false⟩

theorem scanned : scan settings options runner host = .ok (outcome, visit.after) := by
  obtain ⟨found, units, order, -⟩ := host_seen
  have few : ([] : List BuildUnit).length < settings.execution.batchSize host.workers := by decide
  have went := scan_in_one_batch settings options runner (FileTree.ok_of_toOption found)
    (by rw [units]; exact List.cons_ne_nil _ _) order few rfl
  have report : visit.report = entry.report := by
    obtain ⟨missed, _, made⟩ := visit_seen
    rw [@Visit.report_missed visit missed, ← made]
    rfl
  have visits : plan.visits (some cache) host [unit] = [visit] := rfl
  have after : plan.afterVisits (some cache) host [unit] = visit.after := by
    rw [ScanPlan.afterVisits_cons, ScanPlan.afterVisits_nil]
    rfl
  rw [cache?_enabled rfl, located, show Run.plan settings options runner ⟨"/w"⟩ = plan from rfl,
    show Cache.ofSettings store settings = cache from rfl, visits, after, List.map_singleton,
    report] at went
  exact went

theorem advice_seen : outcome.report.isClean = false ∧ outcome.report.counts.fits = true
    ∧ (Advice.enrich settings.advice model outcome.report 0).1.findings.toList.map
        Diagnostic.suggestions = [some ["AI: Declare it."]]
    ∧ (Advice.enrich settings.advice model outcome.report 0).2.2 = 1 := by
  decide +kernel

theorem executed : execute settings options runner model host 0
    = .ok ({ outcome with report := (Advice.enrich settings.advice model outcome.report 0).1 },
        visit.after, (Advice.enrich settings.advice model outcome.report 0).2.2) := by
  obtain ⟨remains, fits, _⟩ := advice_seen
  rw [execute, scanned]
  simp only [bind, Except.bind, wrapped_of_fits fits, remains]
  rfl

end Advised

end Run

/-- The advice reaches the report of the run and not the one that is kept. -/
theorem advice_not_kept : ∃ outcome done asked,
    Run.execute Run.Advised.settings Run.Advised.options Revisit.runner Run.Advised.model Revisit.host 0
        = .ok (outcome, done, asked)
      ∧ outcome.report.findings.toList.map Diagnostic.suggestions = [some ["AI: Declare it."]]
      ∧ asked = 1
      ∧ Run.Executed Run.Advised.store done ∧ PlainKey Revisit.entry.key
      ∧ Run.Advised.store.kept? done Revisit.entry.key = some Revisit.entry
      ∧ Revisit.entry.report.Unadvised := by
  obtain ⟨_, _, suggestions, number⟩ := Run.Advised.advice_seen
  have past : Run.Executed Run.Advised.store Run.Advised.visit.after :=
    .run (.start (Revisit.host_empty _)) Run.Advised.executed Run.Advised.located
      (fun _ _ _ _ kept => kept)
  exact ⟨_, _, _, Run.Advised.executed, suggestions, number, past, Revisit.entry_plain,
    Run.Advised.visit_kept,
    Run.advice_only_added.2.2 _ _ past _ Revisit.entry_plain _ Run.Advised.visit_kept⟩

end MonorepoCheck
