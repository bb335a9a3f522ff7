import Mathlib.Data.List.Nodup
import MonorepoCheck.Proofs.Batches.Interleaving

/-!
What every order of the workers' steps leads to. `Placed` says where a crew stands in the list of
units, `Logged` what it has told of its scans; each step keeps both.
-/
namespace MonorepoCheck.Batches

open Relation

section Places

def Stage.isBegun : Stage → Bool
  | .waiting => false
  | _ => true

def Stage.isOver : Stage → Bool
  | .done _ => true
  | _ => false

/-- The scan at a place has come as far as `far` tells, in a batch that is merged or in this one. -/
def Reached (far : Stage → Bool) (processed : Nat) (tasks : List (BuildUnit × Stage))
    (place : Nat) : Prop :=
  place < processed ∨
    ∃ index task, place = processed + index ∧ tasks[index]? = some task ∧ far task.2 = true

variable (far : Stage → Bool) (processed place : Nat) {index : Nat}
  {tasks : List (BuildUnit × Stage)} {old : BuildUnit × Stage} (new : BuildUnit × Stage)

theorem reached_nil : Reached far processed [] place ↔ place < processed := by
  simp [Reached]

theorem reached_set_same (found : tasks[index]? = some old) (same : far new.2 = far old.2) :
    Reached far processed (tasks.set index new) place ↔ Reached far processed tasks place := by
  have bound : index < tasks.length := (List.getElem?_eq_some_iff.mp found).1
  have pointwise (at_ : Nat) :
      (∃ task, (tasks.set index new)[at_]? = some task ∧ far task.2 = true) ↔
        ∃ task, tasks[at_]? = some task ∧ far task.2 = true := by
    by_cases here : index = at_
    · subst here
      simp [List.getElem?_set_self bound, found, same]
    · simp [List.getElem?_set_ne here]
  constructor
  · rintro (merged | ⟨at_, task, here, present, reached⟩)
    · exact Or.inl merged
    · obtain ⟨task, present, reached⟩ := (pointwise at_).mp ⟨task, present, reached⟩
      exact Or.inr ⟨at_, task, here, present, reached⟩
  · rintro (merged | ⟨at_, task, here, present, reached⟩)
    · exact Or.inl merged
    · obtain ⟨task, present, reached⟩ := (pointwise at_).mpr ⟨task, present, reached⟩
      exact Or.inr ⟨at_, task, here, present, reached⟩

theorem reached_set_new (found : tasks[index]? = some old) (notYet : far old.2 = false)
    (now : far new.2 = true) :
    Reached far processed (tasks.set index new) place ↔
      Reached far processed tasks place ∨ place = processed + index := by
  have bound : index < tasks.length := (List.getElem?_eq_some_iff.mp found).1
  constructor
  · rintro (merged | ⟨at_, task, same, present, reached⟩)
    · exact Or.inl (Or.inl merged)
    · by_cases here : index = at_
      · subst here
        exact Or.inr same
      · rw [List.getElem?_set_ne here] at present
        exact Or.inl (Or.inr ⟨at_, task, same, present, reached⟩)
  · rintro ((merged | ⟨at_, task, same, present, reached⟩) | here)
    · exact Or.inl merged
    · have elsewhere : index ≠ at_ := by
        rintro rfl
        obtain rfl : old = task := Option.some.inj (found.symm.trans present)
        rw [notYet] at reached
        exact Bool.noConfusion reached
      exact Or.inr ⟨at_, task, same, (List.getElem?_set_ne elsewhere).trans present, reached⟩
    · exact Or.inr ⟨index, new, here, List.getElem?_set_self bound, now⟩

theorem not_reached_of_found (found : tasks[index]? = some old) (notYet : far old.2 = false) :
    ¬ Reached far processed tasks (processed + index) := by
  rintro (merged | ⟨at_, task, same, present, reached⟩)
  · omega
  · obtain rfl : index = at_ := by omega
    obtain rfl : old = task := Option.some.inj (found.symm.trans present)
    rw [notYet] at reached
    exact Bool.noConfusion reached

theorem reached_waiting (batch : List BuildUnit) (notYet : far .waiting = false) :
    Reached far processed (batch.map fun unit => (unit, .waiting)) place ↔ place < processed := by
  constructor
  · rintro (merged | ⟨at_, task, same, present, reached⟩)
    · exact merged
    · obtain ⟨unit, _, rfl⟩ := List.mem_map.mp (List.mem_of_getElem? present)
      rw [notYet] at reached
      exact Bool.noConfusion reached
  · exact Or.inl

theorem reached_all {reports : List UnitReport}
    (all : tasks.map Prod.snd = reports.map Stage.done) (now : ∀ report, far (.done report) = true) :
    Reached far processed tasks place ↔ place < processed + reports.length := by
  have sameLength : tasks.length = reports.length := by
    simpa using congrArg List.length all
  constructor
  · rintro (merged | ⟨at_, task, rfl, present, _⟩)
    · omega
    · have bound := (List.getElem?_eq_some_iff.mp present).1
      omega
  · intro within
    by_cases merged : place < processed
    · exact Or.inl merged
    · have bound : place - processed < tasks.length := by omega
      have done : tasks[place - processed].2 ∈ reports.map Stage.done := by
        rw [← all]
        exact List.mem_map.mpr ⟨_, List.getElem_mem bound, rfl⟩
      obtain ⟨report, _, isDone⟩ := List.mem_map.mp done
      exact Or.inr ⟨place - processed, _, by omega, List.getElem?_eq_getElem bound,
        isDone ▸ now report⟩

end Places

/-- Where a crew stands, with the units `before` merged and the units `rest` not. -/
def Placed (size : Nat) (report : BuildUnit → UnitReport) (before rest : List BuildUnit)
    (crew : Crew) : Prop :=
  match crew.phase with
  | .between => Between size report before rest crew.progress ∧ crew.batches = cut size rest
  | .scanning tasks =>
    Between size report before rest crew.progress ∧ rest ≠ [] ∧
      tasks.map Prod.fst = rest.take size ∧ crew.batches = cut size (rest.drop size) ∧
      ∀ task ∈ tasks, ∀ found, task.2 = .done found → found = report task.1
  | .ended => Merged size (before ++ rest) report crew.progress

/-- What a crew has told: every scan is started and finished once, in this order, and after all
scans of the batches in front of its own. -/
structure Logged (size : Nat) (crew : Crew) : Prop where
  once : crew.log.Nodup
  started_iff : ∀ place, .started place ∈ crew.log ↔
    Reached Stage.isBegun crew.progress.processed crew.phase.tasks place
  finished_iff : ∀ place, .finished place ∈ crew.log ↔
    Reached Stage.isOver crew.progress.processed crew.phase.tasks place
  started_first : ∀ place, .finished place ∈ crew.log →
    [Event.started place, .finished place].Sublist crew.log
  batch_by_batch : ∀ place other, .started place ∈ crew.log → other / size < place / size →
    [Event.finished other, .started place].Sublist crew.log

section Steps
variable {size : Nat} {report : BuildUnit → UnitReport} {units : List BuildUnit} {crew next : Crew}

theorem pair_append_last {first last : Event} {log : List Event} (member : first ∈ log) :
    [first, last].Sublist (log ++ [last]) :=
  (List.singleton_sublist.mpr member).append (List.Sublist.refl [last])

theorem map_fst_set {tasks : List (BuildUnit × Stage)} {index : Nat} {unit : BuildUnit}
    {old : Stage} (found : tasks[index]? = some (unit, old)) (new : Stage) :
    (tasks.set index (unit, new)).map Prod.fst = tasks.map Prod.fst := by
  apply List.ext_getElem?
  intro at_
  by_cases here : index = at_
  · subst here
    have bound : index < tasks.length := (List.getElem?_eq_some_iff.mp found).1
    rw [List.getElem?_map, List.getElem?_map, List.getElem?_set_self bound, found]
    rfl
  · rw [List.getElem?_map, List.getElem?_map, List.getElem?_set_ne here]

/-- The reports of a batch in which every scan is done. -/
theorem reports_of_done {tasks : List (BuildUnit × Stage)} {reports : List UnitReport}
    (honest : ∀ task ∈ tasks, ∀ found, task.2 = .done found → found = report task.1)
    (all : tasks.map Prod.snd = reports.map Stage.done) :
    reports = (tasks.map Prod.fst).map report := by
  induction tasks generalizing reports with
  | nil => simpa using all.symm
  | cons task rest ih =>
      cases reports with
      | nil => simp at all
      | cons first others =>
          simp only [List.map_cons, List.cons.injEq] at all ⊢
          exact ⟨honest task List.mem_cons_self first all.1,
            ih (fun t member => honest t (List.mem_cons_of_mem _ member)) all.2⟩

theorem step_placed (positive : 0 < size) (step : Step report crew next)
    (placed : ∃ before rest, before ++ rest = units ∧ Placed size report before rest crew) :
    ∃ before rest, before ++ rest = units ∧ Placed size report before rest next := by
  obtain ⟨before, rest, whole, placed⟩ := placed
  cases step with
  | ask notYet => exact ⟨before, rest, whole, placed⟩
  | @halt batch more phase batches asked =>
      simp only [Placed, phase] at placed
      refine ⟨before, rest, whole, placed.1.cancel ?_⟩
      -- a batch is left, so not all units are merged
      rintro rfl
      simp [batches, cut_nil] at placed
  | @take batch more phase batches notAsked =>
      simp only [Placed, phase] at placed
      obtain ⟨between, cutRest⟩ := placed
      have present : rest ≠ [] := by
        rintro rfl
        simp [batches, cut_nil] at cutRest
      rw [batches, cut_of_ne_nil positive present] at cutRest
      obtain ⟨rfl, rfl⟩ := List.cons.inj cutRest
      refine ⟨before, rest, whole, between, present, ?_, rfl, ?_⟩
      · simp [List.map_map, Function.comp_def]
      · intro task member found isDone
        obtain ⟨unit, _, rfl⟩ := List.mem_map.mp member
        exact absurd isDone (by simp)
  | @start tasks index unit phase found =>
      simp only [Placed, phase] at placed
      obtain ⟨between, present, sameUnits, cutRest, honest⟩ := placed
      refine ⟨before, rest, whole, between, present, ?_, cutRest, ?_⟩
      · exact (map_fst_set found _).trans sameUnits
      · intro task member other isDone
        rcases List.mem_or_eq_of_mem_set member with old | rfl
        · exact honest task old other isDone
        · exact absurd isDone (by simp)
  | @finish tasks index unit phase found =>
      simp only [Placed, phase] at placed
      obtain ⟨between, present, sameUnits, cutRest, honest⟩ := placed
      refine ⟨before, rest, whole, between, present, ?_, cutRest, ?_⟩
      · exact (map_fst_set found _).trans sameUnits
      · intro task member other isDone
        rcases List.mem_or_eq_of_mem_set member with old | rfl
        · exact honest task old other isDone
        · exact (Stage.done.inj isDone).symm
  | @merge tasks reports phase all =>
      simp only [Placed, phase] at placed
      obtain ⟨between, present, sameUnits, cutRest, honest⟩ := placed
      -- the workers finished in any order, but the reports stand at the places of their units
      have sameReports := reports_of_done honest all
      rw [sameUnits] at sameReports
      subst sameReports
      refine ⟨before ++ rest.take size, rest.drop size, ?_, between.merge present, cutRest⟩
      rw [List.append_assoc, List.take_append_drop, whole]
  | close phase none =>
      simp only [Placed, phase, none] at placed
      obtain ⟨between, cutRest⟩ := placed
      have done : rest = [] := by
        by_contra present
        rw [cut_of_ne_nil positive present] at cutRest
        exact List.cons_ne_nil _ _ cutRest.symm
      subst done
      refine ⟨before, [], whole, ?_⟩
      simpa [Placed] using between.finish

/-- Telling of a scan that has not been told of keeps what has been told. -/
theorem Logged.tell (logged : Logged size crew) (event : Event) (next : Crew)
    (log : next.log = crew.log ++ [event]) (fresh : event ∉ crew.log)
    (started_iff : ∀ place, .started place ∈ next.log ↔
      Reached Stage.isBegun next.progress.processed next.phase.tasks place)
    (finished_iff : ∀ place, .finished place ∈ next.log ↔
      Reached Stage.isOver next.progress.processed next.phase.tasks place)
    (first : ∀ place, event = .finished place → .started place ∈ crew.log)
    (batches : ∀ place other, event = .started place → other / size < place / size →
      .finished other ∈ crew.log) :
    Logged size next := by
  have kept : crew.log.Sublist next.log := log ▸ List.sublist_append_left _ _
  constructor
  case once =>
    rw [log]
    exact logged.once.append (List.nodup_singleton _) (by simpa using fresh)
  case started_iff => exact started_iff
  case finished_iff => exact finished_iff
  case started_first =>
    intro place member
    rw [log] at member
    rcases List.mem_append.mp member with old | new
    · exact (logged.started_first place old).trans kept
    · obtain rfl := List.mem_singleton.mp new
      exact log ▸ pair_append_last (first place rfl)
  case batch_by_batch =>
    intro place other member earlier
    rw [log] at member
    rcases List.mem_append.mp member with old | new
    · exact (logged.batch_by_batch place other old earlier).trans kept
    · obtain rfl := List.mem_singleton.mp new
      exact log ▸ pair_append_last (batches place other rfl earlier)

/-- A step that tells nothing keeps what has been told if no scan gets further by it. -/
theorem Logged.silent (logged : Logged size crew) (next : Crew) (log : next.log = crew.log)
    (begun : ∀ place, Reached Stage.isBegun crew.progress.processed crew.phase.tasks place ↔
      Reached Stage.isBegun next.progress.processed next.phase.tasks place)
    (ended : ∀ place, Reached Stage.isOver crew.progress.processed crew.phase.tasks place ↔
      Reached Stage.isOver next.progress.processed next.phase.tasks place) :
    Logged size next := by
  constructor
  case once => exact log ▸ logged.once
  case started_iff => exact fun place => log ▸ (logged.started_iff place).trans (begun place)
  case finished_iff => exact fun place => log ▸ (logged.finished_iff place).trans (ended place)
  case started_first => exact log ▸ logged.started_first
  case batch_by_batch => exact log ▸ logged.batch_by_batch

/-- A place in an earlier batch than that of a task is in front of the batch of the task. -/
theorem earlier_merged (placed : ∃ before rest, before ++ rest = units ∧
      Placed size report before rest crew) {tasks : List (BuildUnit × Stage)}
    (phase : crew.phase = .scanning tasks) {index other : Nat} (bound : index < tasks.length)
    (earlier : other / size < (crew.progress.processed + index) / size) :
    other < crew.progress.processed := by
  obtain ⟨before, rest, _, placed⟩ := placed
  simp only [Placed, phase] at placed
  obtain ⟨between, present, sameUnits, _⟩ := placed
  obtain ⟨count, multiple⟩ := between.processed ▸ between.whole_batches.resolve_left present
  have short : tasks.length ≤ size := by
    have lengths := congrArg List.length sameUnits
    simp only [List.length_map, List.length_take] at lengths
    omega
  have sameBatch : (crew.progress.processed + index) / size = count := by
    rw [multiple]
    exact Nat.div_eq_of_lt_le (by rw [Nat.mul_comm]; omega) (by rw [Nat.add_one_mul, Nat.mul_comm]; omega)
  rw [sameBatch] at earlier
  rw [multiple, Nat.mul_comm]
  exact (Nat.div_lt_iff_lt_mul (by omega)).mp earlier

theorem step_logged (step : Step report crew next) (logged : Logged size crew)
    (placed : ∃ before rest, before ++ rest = units ∧ Placed size report before rest crew) :
    Logged size next := by
  have begunIff := logged.started_iff
  have overIff := logged.finished_iff
  -- only a start and a finish are told of; the other steps bring no scan further
  cases step with
  | ask notYet => exact logged.silent _ rfl (fun _ => Iff.rfl) (fun _ => Iff.rfl)
  | halt phase batches asked =>
      refine logged.silent _ rfl ?_ ?_ <;> intro place <;> rw [phase] <;> exact Iff.rfl
  | take phase batches notAsked =>
      refine logged.silent _ rfl ?_ ?_ <;> intro place <;> rw [phase] <;>
        exact (reached_nil _ _ _).trans (reached_waiting _ _ _ _ rfl).symm
  | @start tasks index unit phase found =>
      rw [phase] at begunIff overIff
      have fresh := not_reached_of_found Stage.isBegun crew.progress.processed found rfl
      refine logged.tell (.started (crew.progress.processed + index)) _ rfl
        (fun told => fresh ((begunIff _).mp told)) ?_ ?_ ?_ ?_
      · intro place
        have begun := reached_set_new Stage.isBegun crew.progress.processed place
          (unit, Stage.running) found rfl rfl
        simpa [Phase.tasks, begun] using or_congr_left (begunIff place)
      · intro place
        have ended := reached_set_same Stage.isOver crew.progress.processed place
          (unit, Stage.running) found rfl
        simpa [Phase.tasks, ended] using overIff place
      · intro place impossible
        cases impossible
      · intro place other same earlier
        cases same
        -- a batch is taken only after the ones in front of it are merged, hence finished
        have bound := (List.getElem?_eq_some_iff.mp found).1
        exact (overIff other).mpr (Or.inl (earlier_merged placed phase bound earlier))
  | @finish tasks index unit phase found =>
      rw [phase] at begunIff overIff
      have fresh := not_reached_of_found Stage.isOver crew.progress.processed found rfl
      refine logged.tell (.finished (crew.progress.processed + index)) _ rfl
        (fun told => fresh ((overIff _).mp told)) ?_ ?_ ?_ ?_
      · intro place
        have begun := reached_set_same Stage.isBegun crew.progress.processed place
          (unit, Stage.done (report unit)) found rfl
        simpa [Phase.tasks, begun] using begunIff place
      · intro place
        have ended := reached_set_new Stage.isOver crew.progress.processed place
          (unit, Stage.done (report unit)) found rfl rfl
        simpa [Phase.tasks, ended] using or_congr_left (overIff place)
      · intro place same
        cases same
        exact (begunIff _).mpr (Or.inr ⟨index, _, rfl, found, rfl⟩)
      · intro place other impossible
        cases impossible
  | @merge tasks reports phase all =>
      refine logged.silent _ rfl ?_ ?_ <;> intro place <;> rw [phase]
      · exact (reached_all _ _ _ all (fun _ => rfl)).trans (reached_nil _ _ _).symm
      · exact (reached_all _ _ _ all (fun _ => rfl)).trans (reached_nil _ _ _).symm
  | close phase none =>
      refine logged.silent _ rfl ?_ ?_ <;> intro place <;> rw [phase] <;> exact Iff.rfl

end Steps

section Runs
variable {size : Nat} {report : BuildUnit → UnitReport} {units : List BuildUnit}

theorem begin_logged (stop : Bool) : Logged size (Crew.begin size stop units) := by
  constructor
  case once => exact List.nodup_nil
  case started_iff => simp [Crew.begin, Phase.tasks, reached_nil]
  case finished_iff => simp [Crew.begin, Phase.tasks, reached_nil]
  case started_first => simp [Crew.begin]
  case batch_by_batch => simp [Crew.begin]

/-- Every crew that can be reached is placed in the list and has kept its log. -/
theorem reached_crew (positive : 0 < size) {stop : Bool} {crew : Crew}
    (steps : ReflTransGen (Step report) (Crew.begin size stop units) crew) :
    (∃ before rest, before ++ rest = units ∧ Placed size report before rest crew) ∧
      Logged size crew := by
  -- the log is judged by the places, so both are carried along together
  induction steps with
  | refl => exact ⟨⟨[], units, rfl, between_start units, rfl⟩, begin_logged stop⟩
  | tail _ step ih => exact ⟨step_placed positive step ih.1, step_logged step ih.2 ih.1⟩

theorem ended_merged (positive : 0 < size) {stop : Bool} {crew : Crew}
    (steps : ReflTransGen (Step report) (Crew.begin size stop units) crew)
    (ended : crew.phase = .ended) : Merged size units report crew.progress := by
  obtain ⟨before, rest, rfl, placed⟩ := (reached_crew positive steps).1
  simpa only [Placed, ended] using placed

/-- Scans that count themselves. -/
def counting (report : BuildUnit → UnitReport) (scanned : Nat) (unit : BuildUnit) :
    UnitReport × Nat := (report unit, scanned + 1)

theorem scanBatch_counting (scanned : Nat) (batch : List BuildUnit) :
    (scanBatch (counting report) scanned batch).2 = scanned + batch.length := by
  induction batch generalizing scanned with
  | nil => rfl
  | cons unit rest ih =>
      simp only [scanBatch, counting, List.length_cons]
      rw [ih]
      omega

/-- A run that is asked to stop after some whole batches comes exactly so far. -/
theorem runFrom_processed (positive : 0 < size) (stopAt rounds : Nat)
    (before rest : List BuildUnit) (enough : rest.length ≤ rounds) (progress : Progress)
    (between : Between size report before rest progress) (notPast : before.length ≤ stopAt)
    (bounded : stopAt ≤ before.length + rest.length)
    (whole : stopAt = before.length + rest.length ∨ size ∣ stopAt) :
    (runFrom (fun scanned => decide (stopAt ≤ scanned)) (counting report) progress before.length
      (cut size rest)).1.processed = stopAt := by
  induction rounds generalizing before rest progress with
  | zero =>
      obtain rfl : rest = [] := List.eq_nil_of_length_eq_zero (Nat.le_zero.mp enough)
      have same : before.length = stopAt := by simp only [List.length_nil] at bounded; omega
      exact between.processed.trans same
  | succ rounds ih =>
      by_cases done : rest = []
      · subst done
        have same : before.length = stopAt := by simp only [List.length_nil] at bounded; omega
        exact between.processed.trans same
      · have honest : ∀ scanned unit, (counting report scanned unit).1 = report unit :=
          fun _ _ => rfl
        rw [cut_of_ne_nil positive done, runFrom_cons _ _ _ _ honest]
        by_cases here : stopAt ≤ before.length
        · rw [if_pos (by simpa using here)]
          exact between.processed.trans (Nat.le_antisymm notPast here)
        · rw [if_neg (by simpa using here), scanBatch_counting]
          have present := List.length_pos_iff.mpr done
          -- the stop lies between two batches, so the next batch does not run past it
          have batchFits : before.length + min size rest.length ≤ stopAt := by
            rcases whole with all | ⟨count, multiple⟩
            · omega
            · obtain ⟨begun, atMultiple⟩ := between.whole_batches.resolve_left done
              rw [atMultiple, multiple] at here ⊢
              have less : begun < count := Nat.lt_of_mul_lt_mul_left (Nat.lt_of_not_le here)
              have next : size * begun + size ≤ size * count :=
                Nat.mul_succ size begun ▸ Nat.mul_le_mul_left size less
              omega
          have next := ih (before ++ rest.take size) (rest.drop size)
            (by simp only [List.length_drop]; omega) _ (between.merge done)
            (by
              simp only [List.length_append, List.length_take]
              omega)
            (by
              simp only [List.length_append, List.length_take, List.length_drop]
              omega)
            (by
              simp only [List.length_append, List.length_take, List.length_drop]
              rcases whole with all | multiple
              · exact Or.inl (by omega)
              · exact Or.inr multiple)
          rwa [List.length_append] at next

/-- The run that is asked to stop where a merged progress ends is that progress. -/
theorem Merged.eq_run (workers : Option Nat) {progress : Progress}
    (merged : Merged (Batches.size workers) units report progress) :
    progress = (run (Batches.size workers) (fun scanned => decide (progress.processed ≤ scanned))
      (counting report) 0 units).1 := by
  have start : Between (Batches.size workers) report [] units ⟨.empty, 0, false⟩ :=
    between_start units
  have sameEnd := runFrom_processed (size_pos workers) progress.processed _ [] units
    (Nat.le_refl _) _ start (Nat.zero_le _) (by simpa using merged.bounded)
    (by simpa using merged.whole_batches)
  exact merged.unique (run_merged workers units 0 fun _ _ => rfl) sameEnd.symm

theorem Merged.whole_report {progress : Progress} (merged : Merged size units report progress)
    (uncancelled : progress.cancelled = false) :
    progress.report = .ofUnits (units.map report) := by
  have all : units.length ≤ progress.processed := by
    apply Nat.le_of_not_lt
    intro left
    rw [merged.cancelled_iff.mpr left] at uncancelled
    exact Bool.noConfusion uncancelled
  rw [merged.in_order, List.take_of_length_le all]

theorem runFrom_uncancelled {σ : Type} {cancelled : σ → Bool}
    {scan : σ → BuildUnit → UnitReport × σ} (never : ∀ state, cancelled state = false)
    (progress : Progress) (state : σ) (batches : List (List BuildUnit)) :
    (runFrom cancelled scan progress state batches).1.cancelled = progress.cancelled := by
  induction batches generalizing progress state with
  | nil => rfl
  | cons batch more ih =>
      rw [runFrom, if_neg (by simp [never])]
      exact ih _ _

/-- What is left of a crew that has ended. -/
structure Outcome (size : Nat) (units : List BuildUnit) (report : BuildUnit → UnitReport)
    (crew : Crew) : Prop where
  merged : Merged size units report crew.progress
  started_iff : ∀ place, .started place ∈ crew.log ↔ place < crew.progress.processed
  finished_iff : ∀ place, .finished place ∈ crew.log ↔ place < crew.progress.processed
  as_run : crew.progress =
    (run size (fun scanned => decide (crew.progress.processed ≤ scanned)) (counting report) 0
      units).1
  as_sequential : crew.progress.cancelled = false →
    crew.progress.report =
      (run (Batches.size none) (fun _ => false) (counting report) 0 units).1.report

/-- A crew that has ended has the outcome of a run. -/
theorem ended_outcome (workers : Option Nat) {stop : Bool} {crew : Crew}
    (steps : ReflTransGen (Step report) (.begin (Batches.size workers) stop units) crew)
    (ended : crew.phase = .ended) : Outcome (Batches.size workers) units report crew := by
  have merged := ended_merged (size_pos workers) steps ended
  have logged := (reached_crew (size_pos workers) steps).2
  constructor
  case merged => exact merged
  case started_iff =>
    intro place
    simpa [ended, Phase.tasks, reached_nil] using logged.started_iff place
  case finished_iff =>
    intro place
    simpa [ended, Phase.tasks, reached_nil] using logged.finished_iff place
  case as_run => exact merged.eq_run workers
  case as_sequential =>
    intro uncancelled
    have sequential : Merged (Batches.size none) units report
        (run (Batches.size none) (fun _ => false) (counting report) 0 units).1 :=
      run_merged none units 0 fun _ _ => rfl
    rw [merged.whole_report uncancelled,
      sequential.whole_report (runFrom_uncancelled (fun _ => rfl) _ _ _)]

end Runs

/-- Whatever order the workers of a run take and whenever it is asked to stop, no crew works for
ever or gets stuck, scans follow each other batch by batch, and the crew ends with the reports of
the first units merged in the order of the list, which is what the run of the batches gives. -/
theorem crew_merges_in_order (workers : Option Nat) (units : List BuildUnit)
    (report : BuildUnit → UnitReport) :
    WellFounded (fun next crew => Step report crew next) ∧
      (∀ stop crew, ReflTransGen (Step report) (.begin (Batches.size workers) stop units) crew →
        (crew.phase ≠ .ended → ∃ next, Step report crew next) ∧
          Logged (Batches.size workers) crew ∧
          (crew.phase = .ended → Outcome (Batches.size workers) units report crew)) ∧
      ∀ (σ : Type) (cancelled : σ → Bool) (scan : σ → BuildUnit → UnitReport × σ) (state : σ),
        (∀ state unit, (scan state unit).1 = report unit) →
          Merged (Batches.size workers) units report
            (run (Batches.size workers) cancelled scan state units).1 := by
  refine ⟨step_wellFounded report, ?_, ?_⟩
  · intro stop crew steps
    exact ⟨step_exists report crew, (reached_crew (size_pos workers) steps).2,
      ended_outcome workers steps⟩
  · intro σ cancelled scan state same
    exact run_merged workers units state same

/-- A unit for a crew of two, which is told by its name. -/
def sampleUnit (name : String) : BuildUnit := ⟨⟨name⟩, name, ⟨name⟩, []⟩

def sampleUnits : List BuildUnit := [sampleUnit "a", sampleUnit "b", sampleUnit "c"]

def sampleReport (unit : BuildUnit) : UnitReport := .ofDiagnostics unit.name []

/-- Two workers start the second unit before the first one. While both are at work a stop is asked
for, so that the third unit is not begun. -/
theorem crew_merges_in_order_halted : ∃ crew,
    ReflTransGen (Step sampleReport) (.begin (Batches.size (some 2)) false sampleUnits) crew
      ∧ crew.phase = .ended ∧ crew.progress.processed = 2 ∧ crew.progress.cancelled = true
      ∧ Outcome (Batches.size (some 2)) sampleUnits sampleReport crew := by
  have taken := ReflTransGen.tail ReflTransGen.refl
    (@Step.take sampleReport (.begin (Batches.size (some 2)) false sampleUnits) _ _ rfl rfl rfl)
  have second := taken.tail (@Step.start _ _ _ 1 _ rfl rfl)
  have both := second.tail (@Step.start _ _ _ 0 _ rfl rfl)
  have asked := both.tail (.ask rfl)
  have one := asked.tail (@Step.finish _ _ _ 0 _ rfl rfl)
  have all := one.tail (@Step.finish _ _ _ 1 _ rfl rfl)
  have merged := all.tail (@Step.merge _ _ _ (sampleUnits.take 2 |>.map sampleReport) rfl rfl)
  have halted := merged.tail (.halt rfl rfl rfl)
  exact ⟨_, halted, rfl, rfl, rfl,
    ((crew_merges_in_order (some 2) sampleUnits sampleReport).2.1 false _ halted).2.2 rfl⟩

end MonorepoCheck.Batches
