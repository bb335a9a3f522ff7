import MonorepoCheck.Proofs.Run.Success

/-!
How runs end. Three things can keep a run from having an outcome: its root leads to no directory, there
is no unit in it, or a stop was asked for before the first batch. Nothing that files hold, commands reply
or others do meanwhile is among them, but a run waits for what it asks: where an answer never comes, or
a program that checks its sums stops at one, there is no end of any kind.
-/
namespace MonorepoCheck

namespace FileTree

variable {tree : FileTree} {here place : Location} {path : Path} {entry : Entry}

/-- The steps of a path enter a place whose own path is too long. -/
def EntersTooLong (here : Location) (path : Path) : Prop :=
  ∃ place ∈ entered (origin here path) (walk path), pathLimit ≤ (pathOf place).text.utf8ByteSize

theorem realPath_too_long (located : tree.locate here path = .ok place)
    (stands : tree.entry? place = some entry) (long : EntersTooLong here path) :
    tree.realPath here path = .error .nameTooLong := by
  obtain ⟨passed, passes, long⟩ := long
  have all : ((entered (origin here path) (walk path)).any fun place =>
      pathLimit ≤ (pathOf place).text.utf8ByteSize) = true :=
    List.any_eq_true.mpr ⟨passed, passes, decide_eq_true long⟩
  rw [realPath, located]
  simp only [bind, Except.bind, stands, all]
  rfl

theorem realPath_short (located : tree.locate here path = .ok place)
    (stands : tree.entry? place = some entry) (short : ¬ EntersTooLong here path) :
    tree.realPath here path = .ok (pathOf place) := by
  have none' : ((entered (origin here path) (walk path)).any fun place =>
      pathLimit ≤ (pathOf place).text.utf8ByteSize) = false := by
    rw [Bool.eq_false_iff]
    intro long
    obtain ⟨passed, passes, long⟩ := List.any_eq_true.mp long
    exact short ⟨passed, passes, of_decide_eq_true long⟩
  rw [realPath, located]
  simp only [bind, Except.bind, stands, none']
  rfl

end FileTree

theorem RunReport.addNotes_withCounts (notes : List String) (run : RunReport) (counts : Counts) :
    notes.foldl addNote { run with counts := counts }
      = { notes.foldl addNote run with counts := counts } := by
  induction notes generalizing run with
  | nil => rfl
  | cons note notes ih => exact ih (run.addNote note)

namespace Batches

variable {σ : Type} {state : σ} {units : List BuildUnit}

/-- A stop that is asked for beforehand is heard before the first batch. -/
theorem run_stopped (cancelled : σ → Bool) (scan : σ → BuildUnit → UnitReport × σ)
    (workers : Option Nat) (asked : cancelled state = true) (present : units ≠ []) :
    run (Batches.size workers) cancelled scan state units = (⟨.empty, 0, true⟩, state) := by
  rw [run, cut_of_ne_nil (size_pos workers) present, runFrom, if_pos asked]

/-- The first batch, once begun, is finished. -/
theorem run_began (cancelled : σ → Bool) (scan : σ → BuildUnit → UnitReport × σ)
    (workers : Option Nat) (running : cancelled state = false) (present : units ≠ []) :
    0 < (run (Batches.size workers) cancelled scan state units).1.processed := by
  obtain ⟨first, rest, _, scanned, _, began⟩ := run_scanned cancelled scan workers state units
  have some' := List.length_pos_iff.mpr (began running present)
  have processed : _ = 0 + first.length := scanned.processed
  omega

/-- Scans of which some may not come back. From then on there is no state. -/
def lossy (scan : σ → BuildUnit → Option (UnitReport × σ)) :
    Option σ → BuildUnit → UnitReport × Option σ
  | none, _ => (.empty, none)
  | some state, unit =>
    match scan state unit with
    | none => (.empty, none)
    | some (report, state) => (report, some state)

section Total

variable (scan : σ → BuildUnit → UnitReport × σ)

theorem scanBatch_lossy (state : σ) (batch : List BuildUnit) :
    scanBatch (lossy fun state unit => some (scan state unit)) (some state) batch
      = ((scanBatch scan state batch).1, some (scanBatch scan state batch).2) := by
  induction batch generalizing state with
  | nil => rfl
  | cons unit rest ih =>
      simp only [scanBatch, lossy]
      rw [ih]

theorem runFrom_lossy (cancelled : σ → Bool) (progress : Progress) (state : σ)
    (batches : List (List BuildUnit)) :
    runFrom (Option.all cancelled) (lossy fun state unit => some (scan state unit)) progress
        (some state) batches
      = ((runFrom cancelled scan progress state batches).1,
          some (runFrom cancelled scan progress state batches).2) := by
  induction batches generalizing progress state with
  | nil => rfl
  | cons batch rest ih =>
      rw [runFrom, runFrom, Option.all_some]
      split
      · rfl
      · rw [scanBatch_lossy]
        exact ih _ _

/-- Where every scan comes back, nothing is lost. -/
theorem run_lossy (size : Nat) (cancelled : σ → Bool) (state : σ) (units : List BuildUnit) :
    run size (Option.all cancelled) (lossy fun state unit => some (scan state unit)) (some state) units
      = ((run size cancelled scan state units).1, some (run size cancelled scan state units).2) :=
  runFrom_lossy scan cancelled _ state _

end Total

end Batches

namespace Run

/-- What a run is told about its root: whether it is a directory, what its absolute path is, and which
units are found below that. Any files may stand behind the answers, whoever may read them. None instead
of a list is an answer that never comes, as where a manifest is a pipe that nobody writes to. -/
structure Sight where
  isDirectory : Bool
  realPath : Except FileError Path
  units : Path → Option (List BuildUnit)

namespace Sight

/-- What a machine tells. -/
def ofHost (settings : Settings) (options : RunOptions) (host : Host) : Sight where
  isDirectory := host.isDirectoryAt options.root
  realPath := host.realPath options.root
  units root := some ((Workspace.mk root).units host settings)

variable {sight : Sight} {root other : Path} {units more : List BuildUnit}

/-- The root is no directory, or its absolute path cannot be told. -/
def Missing (sight : Sight) : Prop :=
  sight.isDirectory = false ∨ ∃ cause, sight.realPath = .error cause

structure LeadsTo (sight : Sight) (root : Path) : Prop where
  directory : sight.isDirectory = true
  leads : sight.realPath = .ok root

structure Finds (sight : Sight) (root : Path) (units : List BuildUnit) : Prop
    extends sight.LeadsTo root where
  told : sight.units root = some units

theorem missing_or_leads (sight : Sight) : sight.Missing ∨ ∃ root, sight.LeadsTo root := by
  cases directory : sight.isDirectory with
  | false => exact .inl (.inl directory)
  | true =>
      cases leads : sight.realPath with
      | error cause => exact .inl (.inr ⟨cause, leads⟩)
      | ok root => exact .inr ⟨root, directory, leads⟩

theorem LeadsTo.not_missing (leads : sight.LeadsTo root) : ¬ sight.Missing := by
  rintro (missing | ⟨cause, missing⟩)
  · exact Bool.noConfusion (missing.symm.trans leads.directory)
  · cases missing.symm.trans leads.leads

theorem LeadsTo.unique (leads : sight.LeadsTo root) (again : sight.LeadsTo other) : root = other :=
  Except.ok.inj (leads.leads.symm.trans again.leads)

theorem Finds.unique (finds : sight.Finds root units) (again : sight.Finds other more) :
    root = other ∧ units = more := by
  obtain rfl := finds.toLeadsTo.unique again.toLeadsTo
  exact ⟨rfl, Option.some.inj (finds.told.symm.trans again.told)⟩

/-- What is found is all that there is to find. -/
theorem Finds.exists_iff (finds : sight.Finds root units) {holds : Path → List BuildUnit → Prop} :
    (∃ other more, sight.Finds other more ∧ holds other more) ↔ holds root units := by
  constructor
  · rintro ⟨other, more, again, held⟩
    obtain ⟨rfl, rfl⟩ := finds.unique again
    exact held
  · exact fun held => ⟨root, units, finds, held⟩

theorem Finds.empty_iff (finds : sight.Finds root units) (other : Path) :
    sight.Finds other [] ↔ other = root ∧ units = [] := by
  constructor
  · intro again
    obtain ⟨same, none'⟩ := finds.unique again
    exact ⟨same.symm, none'⟩
  · rintro ⟨rfl, rfl⟩
    exact finds

/-- Where units are found, all answers came. -/
theorem Finds.answers (finds : sight.Finds root units) :
    ¬ sight.Missing ∧ ¬ ∃ other, sight.LeadsTo other ∧ sight.units other = none := by
  refine ⟨finds.not_missing, ?_⟩
  rintro ⟨other, leads, waits⟩
  rw [← finds.toLeadsTo.unique leads, finds.told] at waits
  cases waits

end Sight

section Conduct

variable {σ : Type}

/-- The scans of a run over the units of a root. -/
def attempt (workers : Option Nat) (cancelled : σ → Bool)
    (scan : Path → σ → BuildUnit → Option (UnitReport × σ)) (begun : σ) (root : Path)
    (units : List BuildUnit) : Progress × Option σ :=
  Batches.run (Batches.size workers) (Option.all cancelled) (Batches.lossy (scan root)) (some begun)
    (DependencyGraph.ofUnits units).schedule.order

/-- What comes of the scans, if they all came back. -/
def conclude (root : Path) (units : List BuildUnit) (overflow : Overflow)
    (scanned : Progress × Option σ) : Option (Except Failure (RunOutcome × σ)) := do
  let (progress, last) := scanned
  let done ← last
  let report ← progress.report.inWords overflow
  if progress.cancelled && progress.processed == 0 then some (.error .cancelled)
  else
    let schedule := (DependencyGraph.ofUnits units).schedule
    some (.ok (outcomeOf root schedule { progress with report := report }, done))

/-- A run under any answers, in any build, with any scans on a state that begins as `begun`. It is none
if it has no end. -/
def conduct (sight : Sight) (asked : Path) (file : String) (workers : Option Nat)
    (overflow : Overflow) (cancelled : σ → Bool)
    (scan : Path → σ → BuildUnit → Option (UnitReport × σ)) (begun : σ) :
    Option (Except Failure (RunOutcome × σ)) :=
  if sight.isDirectory then
    match sight.realPath with
    | .error _ => some (.error (.rootNotFound asked))
    | .ok root =>
      match sight.units root with
      | none => none
      | some units =>
        if units = [] then some (.error (.noUnitsFound root file))
        else conclude root units overflow (attempt workers cancelled scan begun root units)
  else some (.error (.rootNotFound asked))

/-- Whether every scan that is begun comes back, and no sum stops the program. -/
structure Completes (workers : Option Nat) (overflow : Overflow) (cancelled : σ → Bool)
    (scan : Path → σ → BuildUnit → Option (UnitReport × σ)) (begun : σ) (root : Path)
    (units : List BuildUnit) : Prop where
  back : (attempt workers cancelled scan begun root units).2.isSome = true
  sums : overflow = .stops →
    (attempt workers cancelled scan begun root units).1.report.counts.fits = true

/-- The ways in which a run can end, and the two in which it does not. -/
inductive Ending (sight : Sight) (asked : Path) (file : String) (stopped : Bool)
    (completes : Path → List BuildUnit → Prop) : Option (Except Failure (RunOutcome × σ)) → Prop where
  | noRoot (missing : sight.Missing) :
      Ending sight asked file stopped completes (some (.error (.rootNotFound asked)))
  | noUnits {root : Path} (finds : sight.Finds root []) :
      Ending sight asked file stopped completes (some (.error (.noUnitsFound root file)))
  | cancelled {root : Path} {units : List BuildUnit} (finds : sight.Finds root units)
      (present : units ≠ []) (heard : stopped = true) :
      Ending sight asked file stopped completes (some (.error .cancelled))
  | finished {root : Path} {units : List BuildUnit} (finds : sight.Finds root units)
      (present : units ≠ []) (running : stopped = false) (complete : completes root units)
      {outcome : RunOutcome} {done : σ} (began : 0 < outcome.processed) :
      Ending sight asked file stopped completes (some (.ok (outcome, done)))
  | untold {root : Path} (leads : sight.LeadsTo root) (waits : sight.units root = none) :
      Ending sight asked file stopped completes none
  | unfinished {root : Path} {units : List BuildUnit} (finds : sight.Finds root units)
      (present : units ≠ []) (running : stopped = false) (incomplete : ¬ completes root units) :
      Ending sight asked file stopped completes none

/-- When a run ends in which way. -/
structure Ends (sight : Sight) (asked : Path) (file : String) (stopped : Bool)
    (completes : Path → List BuildUnit → Prop)
    (result : Option (Except Failure (RunOutcome × σ))) : Prop where
  noRoot : ∀ root, result = some (.error (.rootNotFound root)) ↔ root = asked ∧ sight.Missing
  noUnits : ∀ root name, result = some (.error (.noUnitsFound root name))
    ↔ name = file ∧ sight.Finds root []
  cancelled : result = some (.error .cancelled)
    ↔ (∃ root units, sight.Finds root units ∧ units ≠ []) ∧ stopped = true
  finished : (∃ outcome done, result = some (.ok (outcome, done)))
    ↔ stopped = false ∧ ∃ root units, sight.Finds root units ∧ units ≠ [] ∧ completes root units
  processed : ∀ outcome done, result = some (.ok (outcome, done)) → 0 < outcome.processed
  /-- There is no fifth way to end. -/
  failures : ∀ failure, result = some (.error failure) →
    failure = .rootNotFound asked ∨ (∃ root, failure = .noUnitsFound root file)
      ∨ failure = .cancelled
  endless : result = none
    ↔ (∃ root, sight.LeadsTo root ∧ sight.units root = none)
      ∨ stopped = false ∧ ∃ root units, sight.Finds root units ∧ units ≠ [] ∧ ¬ completes root units

variable {sight : Sight} {asked : Path} {file : String} {stopped : Bool} {overflow : Overflow}
  {completes : Path → List BuildUnit → Prop} {result : Option (Except Failure (RunOutcome × σ))}
  {workers : Option Nat} {cancelled : σ → Bool}
  {scan : Path → σ → BuildUnit → Option (UnitReport × σ)} {begun : σ} {root : Path}
  {units : List BuildUnit}

/-- Scans that have come back with sums that the program bears make an end. -/
theorem conclude_completes (complete : Completes workers overflow cancelled scan begun root units) :
    ∃ report done, conclude root units overflow (attempt workers cancelled scan begun root units)
      = if (attempt workers cancelled scan begun root units).1.cancelled
          && (attempt workers cancelled scan begun root units).1.processed == 0 then
          some (.error .cancelled)
        else some (.ok (outcomeOf root (DependencyGraph.ofUnits units).schedule
          { (attempt workers cancelled scan begun root units).1 with report := report }, done)) := by
  obtain ⟨back, sums⟩ := complete
  generalize attempt workers cancelled scan begun root units = scanned at back sums
  obtain ⟨progress, last⟩ := scanned
  obtain ⟨done, rfl⟩ := Option.isSome_iff_exists.mp back
  have words : ∃ report, progress.report.inWords overflow = some report := by
    cases overflow with
    | wraps => exact ⟨_, rfl⟩
    | stops => exact ⟨_, RunReport.inWords_of_fits (sums rfl) .stops⟩
  obtain ⟨report, words⟩ := words
  refine ⟨report, done, ?_⟩
  simp only [conclude, Option.bind_eq_bind, Option.bind_some, words]

/-- Otherwise there is none. -/
theorem conclude_incomplete
    (incomplete : ¬ Completes workers overflow cancelled scan begun root units) :
    conclude root units overflow (attempt workers cancelled scan begun root units) = none := by
  cases back : (attempt workers cancelled scan begun root units).2 with
  | none => simp only [conclude, back, Option.bind_eq_bind, Option.bind_none]
  | some done =>
      have stops : (attempt workers cancelled scan begun root units).1.report.inWords overflow
          = none := by
        cases overflow with
        | wraps => exact absurd ⟨by rw [back]; rfl, nofun⟩ incomplete
        | stops =>
            rw [RunReport.inWords, Option.map_eq_none_iff, Counts.inWords_stops_none,
              Bool.eq_false_iff]
            exact fun fits => incomplete ⟨by rw [back]; rfl, fun _ => fits⟩
      simp only [conclude, back, Option.bind_eq_bind, Option.bind_some, stops, Option.bind_none]

theorem conduct_missing (missing : sight.Missing) :
    conduct sight asked file workers overflow cancelled scan begun
      = some (.error (.rootNotFound asked)) := by
  rw [conduct]
  rcases missing with missing | ⟨cause, missing⟩
  · rw [missing]
    rfl
  · rw [missing]
    split <;> rfl

theorem conduct_untold (leads : sight.LeadsTo root) (waits : sight.units root = none) :
    conduct sight asked file workers overflow cancelled scan begun = none := by
  rw [conduct, if_pos leads.directory, leads.leads]
  dsimp only
  rw [waits]

theorem conduct_finds (finds : sight.Finds root units) :
    conduct sight asked file workers overflow cancelled scan begun
      = if units = [] then some (.error (.noUnitsFound root file))
        else conclude root units overflow (attempt workers cancelled scan begun root units) := by
  rw [conduct, if_pos finds.directory, finds.leads]
  dsimp only
  rw [finds.told]

theorem conduct_ending (sight : Sight) (asked : Path) (file : String) (workers : Option Nat)
    (overflow : Overflow) (cancelled : σ → Bool)
    (scan : Path → σ → BuildUnit → Option (UnitReport × σ)) (begun : σ) :
    Ending sight asked file (cancelled begun) (Completes workers overflow cancelled scan begun)
      (conduct sight asked file workers overflow cancelled scan begun) := by
  rcases sight.missing_or_leads with missing | ⟨root, leads⟩
  · rw [conduct_missing missing]
    exact .noRoot missing
  · cases told : sight.units root with
    | none =>
        rw [conduct_untold leads told]
        exact .untold leads told
    | some units =>
        have finds : sight.Finds root units := ⟨leads, told⟩
        rw [conduct_finds finds]
        by_cases none' : units = []
        · rw [if_pos none']
          exact .noUnits (none' ▸ finds)
        · rw [if_neg none']
          have scheduled := order_present none'
          cases heard : cancelled begun with
          | true =>
              have stopped : attempt workers cancelled scan begun root units
                  = (⟨.empty, 0, true⟩, some begun) :=
                Batches.run_stopped _ _ workers heard scheduled
              rw [stopped]
              have ended : conclude root units overflow (⟨.empty, 0, true⟩, some begun)
                  = some (.error .cancelled) := by
                cases overflow <;> rfl
              rw [ended]
              exact .cancelled finds none' rfl
          | false =>
              have began : 0 < (attempt workers cancelled scan begun root units).1.processed :=
                Batches.run_began _ _ workers heard scheduled
              by_cases complete : Completes workers overflow cancelled scan begun root units
              · obtain ⟨report, done, ended⟩ := conclude_completes complete
                rw [ended, if_neg (by simp; omega)]
                exact .finished finds none' rfl complete began
              · rw [conclude_incomplete complete]
                exact .unfinished finds none' rfl complete

/-- The ways exclude each other, so each comes about exactly under its own conditions. -/
theorem Ending.ends (ending : Ending sight asked file stopped completes result) :
    Ends sight asked file stopped completes result := by
  cases ending with
  | noRoot missing =>
      have nowhere : ∀ root, ¬ sight.LeadsTo root := fun _ leads => leads.not_missing missing
      have nothing : ∀ root units, ¬ sight.Finds root units := fun root _ finds =>
        nowhere root finds.toLeadsTo
      constructor <;> simp [missing, nowhere, nothing, eq_comm (a := asked)]
  | noUnits finds =>
      obtain ⟨missing, waits⟩ := finds.answers
      have only := finds.empty_iff
      constructor
      case noUnits =>
          intro other name
          rw [only, Option.some.injEq, Except.error.injEq, Failure.noUnitsFound.injEq, and_comm,
            eq_comm, eq_comm (a := other)]
          simp
      all_goals simp [missing, waits, finds.exists_iff]
  | cancelled finds present heard =>
      obtain ⟨missing, waits⟩ := finds.answers
      have only := finds.empty_iff
      constructor <;> simp [missing, waits, only, finds.exists_iff, present, heard]
  | finished finds present running complete began =>
      obtain ⟨missing, waits⟩ := finds.answers
      have only := finds.empty_iff
      constructor <;> simp [missing, waits, only, finds.exists_iff, present, running, complete, began]
  | unfinished finds present running incomplete =>
      obtain ⟨missing, waits⟩ := finds.answers
      have only := finds.empty_iff
      constructor <;> simp [missing, waits, only, finds.exists_iff, present, running, incomplete]
  | untold leads waits =>
      have nothing : ∀ root units, ¬ sight.Finds root units := by
        intro other units finds
        obtain rfl := leads.unique finds.toLeadsTo
        cases waits.symm.trans finds.told
      have untold : ∃ root, sight.LeadsTo root ∧ sight.units root = none := ⟨_, leads, waits⟩
      constructor <;> simp [leads.not_missing, nothing, untold]

/-- What is made of an outcome beside its report does not matter to the way a run ends. -/
theorem Ends.of_map {result : Except Failure (RunOutcome × σ)}
    {change : RunOutcome × σ → RunOutcome × σ}
    (same : ∀ ran, (change ran).1.processed = ran.1.processed)
    (ends : Ends sight asked file stopped completes (some (result.map change))) :
    Ends sight asked file stopped completes (some result) := by
  cases result with
  | error failure => exact ends
  | ok ran =>
      have went : ∃ outcome done, (some (Except.map change (Except.ok (ε := Failure) ran)))
          = some (.ok (outcome, done)) := ⟨_, _, rfl⟩
      constructor
      case noRoot =>
          intro root
          exact iff_of_false nofun fun found => nomatch (ends.noRoot root).mpr found
      case noUnits =>
          intro root name
          exact iff_of_false nofun fun found => nomatch (ends.noUnits root name).mpr found
      case cancelled => exact iff_of_false nofun fun found => nomatch ends.cancelled.mpr found
      case finished => exact iff_of_true ⟨_, _, rfl⟩ (ends.finished.mp went)
      case processed =>
          intro outcome done ok
          obtain rfl := Except.ok.inj (Option.some.inj ok)
          exact same (outcome, done) ▸ ends.processed _ _ rfl
      case failures => exact nofun
      case endless => exact iff_of_false nofun fun found => nomatch ends.endless.mpr found

end Conduct

section Machines

variable {others : BuildUnit → Host → Host} {settings : Settings} {options : RunOptions}
  {runner : Runner} {found begun : Host} {root : Path} {units : List BuildUnit}

/-- A run that finds its units on one machine and begins to scan on another: anything may have happened
since, and goes on to happen between the scans. -/
def scanLater (others : BuildUnit → Host → Host) (settings : Settings) (options : RunOptions)
    (runner : Runner) (found begun : Host) : Except Failure (RunOutcome × Host) :=
  match Workspace.inDirectory found options.root with
  | .error failure => .error failure
  | .ok workspace =>
    let schedule := scheduleOf settings found workspace.root
    let (progress, done) := scanAllAmid others settings options runner begun workspace.root schedule
    if (workspace.units found settings).isEmpty then
      .error (.noUnitsFound workspace.root settings.configurationFile)
    else if progress.cancelled && progress.processed == 0 then .error .cancelled
    else .ok (outcomeOf workspace.root schedule progress, done)

/-- Where nothing happens in between, that is a run. -/
theorem scanLater_alone (settings : Settings) (options : RunOptions) (runner : Runner) (host : Host) :
    scanLater (fun _ host => host) settings options runner host host
      = scan settings options runner host :=
  scanAmid_alone settings options runner host

/-- How many units such a run scans at a time. -/
def workersOf (settings : Settings) (host : Host) : Option Nat :=
  if settings.execution.parallel then some (settings.execution.workers host.workers) else none

/-- The scans of such a run. All of them come back. -/
def machineScan (others : BuildUnit → Host → Host) (settings : Settings) (options : RunOptions)
    (runner : Runner) (begun : Host) (root : Path) (host : Host) (unit : BuildUnit) :
    Option (UnitReport × Host) :=
  some (scanBeside others (plan settings options runner root) (cache? settings begun root) host unit)

/-- Of a directory, only the absolute path may be missing, where it is too long. -/
theorem missing_iff (settings : Settings) (options : RunOptions) (host : Host) :
    (Sight.ofHost settings options host).Missing ↔ host.isDirectoryAt options.root = false
      ∨ FileTree.EntersTooLong host.here options.root := by
  rw [Sight.Missing, show (Sight.ofHost settings options host).isDirectory
    = host.isDirectoryAt options.root from rfl, show (Sight.ofHost settings options host).realPath
    = host.files.realPath host.here options.root from rfl]
  cases directory : host.isDirectoryAt options.root with
  | false => exact iff_of_true (.inl rfl) (.inl rfl)
  | true =>
      obtain ⟨located, stands⟩ := FileTree.find_directory (FileTree.isDirectoryAt_iff.mp directory)
      by_cases long : FileTree.EntersTooLong host.here options.root
      · rw [FileTree.realPath_too_long located stands long]
        exact iff_of_true (.inr ⟨_, rfl⟩) (.inr long)
      · rw [FileTree.realPath_short located stands long]
        simp [long]

theorem inDirectory_missing (missing : (Sight.ofHost settings options found).Missing) :
    Workspace.inDirectory found options.root = .error (.rootNotFound options.root) := by
  rw [Workspace.inDirectory]
  rcases missing with missing | ⟨cause, missing⟩
  · rw [show found.isDirectoryAt options.root = false from missing]
    rfl
  · rw [show found.realPath options.root = .error cause from missing]
    split <;> rfl

theorem inDirectory_leads (leads : (Sight.ofHost settings options found).LeadsTo root) :
    Workspace.inDirectory found options.root = .ok ⟨root⟩ := by
  rw [Workspace.inDirectory, show found.isDirectoryAt options.root = true from leads.directory,
    show found.realPath options.root = .ok root from leads.leads]
  rfl

theorem attempt_machineScan (others : BuildUnit → Host → Host) (settings : Settings)
    (options : RunOptions) (runner : Runner) (begun : Host) (root : Path) (units : List BuildUnit) :
    attempt (workersOf settings begun) Host.cancelled
        (machineScan others settings options runner begun) begun root units
      = ((scanAllAmid others settings options runner begun root
            (DependencyGraph.ofUnits units).schedule).1,
          some (scanAllAmid others settings options runner begun root
            (DependencyGraph.ofUnits units).schedule).2) :=
  Batches.run_lossy _ _ Host.cancelled begun _

theorem wrapped_outcomeOf (root : Path) (schedule : Schedule) (progress : Progress) :
    outcomeOf root schedule { progress with
        report := { progress.report with counts := progress.report.counts.wrapped } }
      = (outcomeOf root schedule progress).wrapped := by
  have counts := counts_outcomeOf root schedule progress
  rw [outcomeOf] at counts
  rw [RunOutcome.wrapped, outcomeOf, outcomeOf]
  dsimp only
  rw [counts, ← RunReport.addNotes_withCounts]
  rfl

/-- On a machine, a run comes to its outcome in the words of an optimized build. -/
theorem conduct_ofHost (others : BuildUnit → Host → Host) (settings : Settings) (options : RunOptions)
    (runner : Runner) (found begun : Host) :
    conduct (Sight.ofHost settings options found) options.root settings.configurationFile
        (workersOf settings begun) .wraps Host.cancelled
        (machineScan others settings options runner begun) begun
      = some ((scanLater others settings options runner found begun).map
          fun ran => (ran.1.wrapped, ran.2)) := by
  rcases (Sight.ofHost settings options found).missing_or_leads with missing | ⟨root, leads⟩
  · rw [conduct_missing missing, scanLater, inDirectory_missing missing]
    rfl
  · have finds : (Sight.ofHost settings options found).Finds root
        ((Workspace.mk root).units found settings) := ⟨leads, rfl⟩
    rw [conduct_finds finds, scanLater, inDirectory_leads leads, attempt_machineScan]
    dsimp only
    rw [scheduleOf]
    generalize (Workspace.mk root).units found settings = units
    by_cases none' : units = []
    · simp only [none', List.isEmpty_nil, if_true, Except.map]
    · rw [if_neg none', if_neg (by rwa [List.isEmpty_iff])]
      generalize scanAllAmid others settings options runner begun root
        (DependencyGraph.ofUnits units).schedule = scanned
      rw [conclude, RunReport.inWords, Counts.inWords]
      simp only [Option.bind_eq_bind, Option.bind_some, Option.map_some, wrapped_outcomeOf]
      split <;> rfl

theorem scanLater_ends (others : BuildUnit → Host → Host) (settings : Settings) (options : RunOptions)
    (runner : Runner) (found begun : Host) :
    Ends (Sight.ofHost settings options found) options.root settings.configurationFile
      begun.cancelled (fun _ _ => True)
      (some (scanLater others settings options runner found begun)) := by
  have ends := (conduct_ending (Sight.ofHost settings options found) options.root
    settings.configurationFile (workersOf settings begun) .wraps Host.cancelled
    (machineScan others settings options runner begun) begun).ends
  have complete : Completes (workersOf settings begun) .wraps Host.cancelled
      (machineScan others settings options runner begun) begun = fun _ _ => True := by
    funext root units
    refine eq_true ⟨?_, nofun⟩
    rw [attempt_machineScan]
    rfl
  rw [complete, conduct_ofHost] at ends
  refine Ends.of_map ?_ ends
  exact fun _ => rfl

/-- Whatever answers come, commands reply and others do, and whenever a stop is asked for, a run fails
for three reasons alone, each exactly where it applies, and otherwise has scanned a unit. It has no end
only where an answer never comes or a sum stops the program. -/
theorem failures_exact :
    (∀ (σ : Type) (sight : Sight) (asked : Path) (file : String) (workers : Option Nat)
        (overflow : Overflow) (cancelled : σ → Bool)
        (scan : Path → σ → BuildUnit → Option (UnitReport × σ)) (begun : σ),
      Ends sight asked file (cancelled begun) (Completes workers overflow cancelled scan begun)
        (conduct sight asked file workers overflow cancelled scan begun))
      ∧ (∀ (settings : Settings) (options : RunOptions) (runner : Runner)
          (others : BuildUnit → Host → Host) (found begun : Host),
        Ends (Sight.ofHost settings options found) options.root settings.configurationFile
            begun.cancelled (fun _ _ => True)
            (some (scanLater others settings options runner found begun))
          ∧ conduct (Sight.ofHost settings options found) options.root settings.configurationFile
              (workersOf settings begun) .wraps Host.cancelled
              (machineScan others settings options runner begun) begun
            = some ((scanLater others settings options runner found begun).map
                fun ran => (ran.1.wrapped, ran.2)))
      ∧ (∀ (settings : Settings) (options : RunOptions) (runner : Runner) (host : Host),
        Ends (Sight.ofHost settings options host) options.root settings.configurationFile
          host.cancelled (fun _ _ => True) (some (scan settings options runner host)))
      ∧ ∀ (settings : Settings) (options : RunOptions) (host : Host),
        (Sight.ofHost settings options host).Missing ↔ host.isDirectoryAt options.root = false
          ∨ FileTree.EntersTooLong host.here options.root := by
  refine ⟨?_, ?_, ?_, missing_iff⟩
  · intro σ sight asked file workers overflow cancelled scan begun
    exact (conduct_ending sight asked file workers overflow cancelled scan begun).ends
  · intro settings options runner others found begun
    exact ⟨scanLater_ends others settings options runner found begun,
      conduct_ofHost others settings options runner found begun⟩
  · intro settings options runner host
    rw [← scanLater_alone]
    exact scanLater_ends _ settings options runner host host

end Machines

/-! A directory so deep that its absolute path is too long, whereas the path from the working directory
is short. -/
namespace Deep

def long : String := String.ofList (List.replicate 255 'a')

def here : Location := List.replicate 17 long

def place : Location := here ++ ["x"]

def host : Host where
  files := ⟨(here, .directory) :: (place, .directory)
    :: (List.range 17).map fun depth => (here.take (depth + 1), .directory)⟩
  here := here
  now := ⟨10, 0⟩

def root : Path := ⟨"x"⟩

theorem entry_here : host.files.entry? here = some .directory := by
  simp [FileTree.entry?, host, show here.isEmpty = false from rfl]

theorem entry_place : host.files.entry? place = some .directory := by
  simp [FileTree.entry?, host, place]

theorem locate_root : host.files.locate here root = .ok place := by
  have steps : FileTree.walk root = [.into "x"] := by decide +kernel
  rw [FileTree.locate, if_neg (by decide), if_neg (by decide), if_neg (by decide),
    show FileTree.origin here root = here from rfl]
  dsimp only
  rw [entry_here, steps]
  rfl

theorem too_long : FileTree.pathLimit ≤ (FileTree.pathOf place).text.utf8ByteSize := by
  apply Nat.le_trans ?_ (Path.size_pathOf place)
  have size : long.utf8ByteSize = 255 := by decide +kernel
  simp [place, here, size, FileTree.pathLimit]
  omega

theorem is_directory : host.isDirectoryAt root = true := by
  rw [Host.isDirectoryAt, FileTree.isDirectoryAt, FileTree.find,
    show host.here = here from rfl, locate_root]
  simp only [bind, Except.bind, entry_place]

theorem no_path : host.realPath root = .error .nameTooLong := by
  have steps : FileTree.walk root = [.into "x"] := by decide +kernel
  apply FileTree.realPath_too_long locate_root entry_place
  refine ⟨place, ?_, too_long⟩
  rw [steps, FileTree.entered]
  exact List.mem_cons_self

end Deep

/-- A root may be a directory and yet not be found. -/
theorem directory_not_found : ∃ (settings : Settings) (options : RunOptions) (runner : Runner)
    (host : Host), host.isDirectoryAt options.root = true
      ∧ scan settings options runner host = .error (.rootNotFound options.root) := by
  refine ⟨default, { root := Deep.root }, default, Deep.host, Deep.is_directory, ?_⟩
  have missing : Workspace.inDirectory Deep.host Deep.root = .error (.rootNotFound Deep.root) :=
    @inDirectory_missing default { root := Deep.root } Deep.host (.inr ⟨_, Deep.no_path⟩)
  rw [scan, missing]
  rfl

end Run
end MonorepoCheck
