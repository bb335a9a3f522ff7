import Mathlib.Algebra.Ring.Nat
import Mathlib.Logic.Relation
import MonorepoCheck.Proofs.Batches.Merged

/-!
Batches as they are scanned by workers at the same time. A crew takes one small step after another,
in any order: a worker starts or finishes one unit of the batch, somebody asks for a stop, and once
all of a batch are finished its reports are merged. Whatever the order, a crew comes to an end with
what the run of the batches gives, and no batch starts before those in front of it are finished.
-/
namespace MonorepoCheck.Batches

open Relation

/-- Where the scan of a unit of the present batch stands. -/
inductive Stage where
  | waiting
  | running
  | done (report : UnitReport)

/-- What is told of a scan, by the place of its unit in the list. -/
inductive Event where
  | started (place : Nat)
  | finished (place : Nat)
  deriving DecidableEq

inductive Phase where
  | between
  | scanning (tasks : List (BuildUnit × Stage))
  | ended

structure Crew where
  /-- whether a stop has been asked for -/
  stop : Bool
  progress : Progress
  phase : Phase
  /-- the batches that are not begun -/
  batches : List (List BuildUnit)
  log : List Event

def Phase.tasks : Phase → List (BuildUnit × Stage)
  | .scanning tasks => tasks
  | _ => []

/-- A crew before its first batch. A stop may have been asked for already. -/
def Crew.begin (size : Nat) (stop : Bool) (units : List BuildUnit) : Crew where
  stop := stop
  progress := ⟨.empty, 0, false⟩
  phase := .between
  batches := cut size units
  log := []

/-- What can happen next, where the scan of a unit gives its report. -/
inductive Step (report : BuildUnit → UnitReport) : Crew → Crew → Prop where
  | ask {crew} : crew.stop = false → Step report crew { crew with stop := true }
  | halt {crew batch more} : crew.phase = .between → crew.batches = batch :: more →
      crew.stop = true →
      Step report crew
        { crew with phase := .ended, progress := { crew.progress with cancelled := true } }
  | take {crew batch more} : crew.phase = .between → crew.batches = batch :: more →
      crew.stop = false →
      Step report crew
        { crew with
          phase := .scanning (batch.map fun unit => (unit, .waiting))
          batches := more }
  | start {crew tasks index unit} : crew.phase = .scanning tasks →
      tasks[index]? = some (unit, .waiting) →
      Step report crew
        { crew with
          phase := .scanning (tasks.set index (unit, .running))
          log := crew.log ++ [.started (crew.progress.processed + index)] }
  | finish {crew tasks index unit} : crew.phase = .scanning tasks →
      tasks[index]? = some (unit, .running) →
      Step report crew
        { crew with
          phase := .scanning (tasks.set index (unit, .done (report unit)))
          log := crew.log ++ [.finished (crew.progress.processed + index)] }
  | merge {crew tasks reports} : crew.phase = .scanning tasks →
      tasks.map Prod.snd = reports.map Stage.done →
      Step report crew
        { crew with phase := .between, progress := afterBatch crew.progress reports }
  | close {crew} : crew.phase = .between → crew.batches = [] →
      Step report crew { crew with phase := .ended }

section Termination

def Stage.rank : Stage → Nat
  | .waiting => 2
  | .running => 1
  | .done _ => 0

@[simp] theorem Stage.rank_waiting : Stage.rank .waiting = 2 := rfl

@[simp] theorem Stage.rank_running : Stage.rank .running = 1 := rfl

@[simp] theorem Stage.rank_done (report : UnitReport) : Stage.rank (.done report) = 0 := rfl

def Phase.rank : Phase → Nat
  | .between => 1
  | .scanning tasks => 2 + (tasks.map fun task => task.2.rank).sum
  | .ended => 0

/-- A bound on the steps that are left. -/
def Crew.rank (crew : Crew) : Nat :=
  (if crew.stop then 0 else 1) + crew.phase.rank
    + (crew.batches.map fun batch => 2 * batch.length + 2).sum

theorem sum_rank_waiting (batch : List BuildUnit) :
    ((batch.map fun unit => (unit, Stage.waiting)).map fun task => task.2.rank).sum =
      2 * batch.length := by
  induction batch with
  | nil => rfl
  | cons unit rest ih =>
      simp only [List.map_cons, List.sum_cons, List.length_cons, Stage.rank_waiting, ih]
      omega

theorem rank_set {tasks : List (BuildUnit × Stage)} {index : Nat} {old : BuildUnit × Stage}
    (new : BuildUnit × Stage) (found : tasks[index]? = some old) (less : new.2.rank < old.2.rank) :
    ((tasks.set index new).map fun task => task.2.rank).sum <
      (tasks.map fun task => task.2.rank).sum := by
  induction tasks generalizing index with
  | nil => simp at found
  | cons task rest ih =>
      cases index with
      | zero =>
          obtain rfl : task = old := by simpa using found
          simpa using less
      | succ index =>
          have later := ih (by simpa using found)
          simpa using later

theorem rank_step {report : BuildUnit → UnitReport} {crew next : Crew}
    (step : Step report crew next) : next.rank < crew.rank := by
  -- the rank counts the steps that are left at most, two of them for each unit that waits
  cases step with
  | ask notYet => simp [Crew.rank, notYet]
  | halt between batches asked => simp [Crew.rank, between, Phase.rank]
  | take between batches notAsked =>
      simp only [Crew.rank, between, batches, Phase.rank, sum_rank_waiting, List.map_cons, List.sum_cons]
      omega
  | @start _ _ unit scanning found =>
      have less := rank_set (unit, .running) found (by simp)
      simp only [Crew.rank, scanning, Phase.rank]
      omega
  | @finish _ _ unit scanning found =>
      have less := rank_set (unit, .done (report unit)) found (by simp)
      simp only [Crew.rank, scanning, Phase.rank]
      omega
  | merge scanning all =>
      simp only [Crew.rank, scanning, Phase.rank]
      omega
  | close between none => simp [Crew.rank, between, Phase.rank]

/-- No crew works for ever. -/
theorem step_wellFounded (report : BuildUnit → UnitReport) :
    WellFounded fun next crew => Step report crew next :=
  Subrelation.wf (fun step => rank_step step) (measure Crew.rank).wf

/-- A crew that has not ended can go on. -/
theorem step_exists (report : BuildUnit → UnitReport) (crew : Crew)
    (working : crew.phase ≠ .ended) : ∃ next, Step report crew next := by
  cases phase : crew.phase with
  | ended => exact absurd phase working
  | between =>
      cases batches : crew.batches with
      | nil => exact ⟨_, .close phase batches⟩
      | cons batch more =>
          cases stop : crew.stop with
          | true => exact ⟨_, .halt phase batches stop⟩
          | false => exact ⟨_, .take phase batches stop⟩
  | scanning tasks =>
      -- either all reports of the batch are there to be merged, or some worker can go on
      by_cases done : ∀ task ∈ tasks, ∃ report, task.2 = .done report
      · have all : ∃ reports, tasks.map Prod.snd = List.map Stage.done reports := by
          clear phase
          induction tasks with
          | nil => exact ⟨[], rfl⟩
          | cons task rest ih =>
              obtain ⟨first, isDone⟩ := done task List.mem_cons_self
              obtain ⟨reports, same⟩ := ih fun t member => done t (List.mem_cons_of_mem _ member)
              exact ⟨first :: reports, by simp [isDone, same]⟩
        obtain ⟨reports, same⟩ := all
        exact ⟨_, .merge phase same⟩
      · simp only [Classical.not_forall, not_exists] at done
        obtain ⟨task, member, notDone⟩ := done
        obtain ⟨index, bound, rfl⟩ := List.getElem_of_mem member
        have found : tasks[index]? = some tasks[index] := List.getElem?_eq_getElem bound
        cases stage : tasks[index].2 with
        | waiting => exact ⟨_, .start phase (found.trans (by rw [← stage]))⟩
        | running => exact ⟨_, .finish phase (found.trans (by rw [← stage]))⟩
        | done report => exact absurd stage (notDone report)

end Termination
end MonorepoCheck.Batches
