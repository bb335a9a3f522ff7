import MonorepoCheck.Report.Run
import MonorepoCheck.Settings.Basic
import MonorepoCheck.Unit.Basic

/-!
Scanning many units: the list is cut into batches of as many units as are scanned at a time. A batch
is finished before the next one starts, and between batches a request to stop is heard. Reports are
merged in the order of the list.
-/
namespace MonorepoCheck

/-- How far a run over many units came. -/
structure Progress where
  report : RunReport
  processed : Nat
  cancelled : Bool
  deriving DecidableEq, Repr, Inhabited

namespace Batches

/-- How many units are scanned at a time, at least one. -/
def size (workers : Option Nat) : Nat := max 1 (workers.getD 1)

/-- Cuts a list into pieces of a size; the last one may be shorter. `rounds` bounds their number. -/
def cutWithin (size : Nat) : Nat → List α → List (List α)
  | 0, _ => []
  | _ + 1, [] => []
  | rounds + 1, items => items.take size :: cutWithin size rounds (items.drop size)

/-- The batches of a list. -/
def cut (size : Nat) (items : List α) : List (List α) := cutWithin (max 1 size) items.length items

/-- Scans one batch; `σ` is what the scans look at and change. -/
def scanBatch (scan : σ → BuildUnit → UnitReport × σ) : σ → List BuildUnit → List UnitReport × σ
  | state, [] => ([], state)
  | state, unit :: rest =>
    let (report, state) := scan state unit
    let (reports, state) := scanBatch scan state rest
    (report :: reports, state)

/-- Scans batches until there are none left or a stop is asked for. -/
def runFrom (cancelled : σ → Bool) (scan : σ → BuildUnit → UnitReport × σ) :
    Progress → σ → List (List BuildUnit) → Progress × σ
  | progress, state, [] => (progress, state)
  | progress, state, batch :: rest =>
    if cancelled state then ({ progress with cancelled := true }, state)
    else
      let (reports, state) := scanBatch scan state batch
      runFrom cancelled scan
        { progress with
          report := reports.foldl RunReport.merge progress.report
          processed := progress.processed + batch.length }
        state rest

/-- Scans units in batches of a size. -/
def run (size : Nat) (cancelled : σ → Bool) (scan : σ → BuildUnit → UnitReport × σ) (state : σ)
    (units : List BuildUnit) : Progress × σ :=
  runFrom cancelled scan ⟨.empty, 0, false⟩ state (cut size units)

end Batches

/-- The size of the batches of a run. -/
def ExecutionSettings.batchSize (execution : ExecutionSettings) (available : Nat) : Nat :=
  Batches.size (if execution.parallel then some (execution.workers available) else none)

end MonorepoCheck
