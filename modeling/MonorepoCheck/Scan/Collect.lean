import MonorepoCheck.Diagnostic.CheckerLine
import MonorepoCheck.Diagnostic.Hints
import MonorepoCheck.Diagnostic.Snippet
import MonorepoCheck.Scan.Plan

/-!
Collecting the diagnostics of a unit with its checker. A checker that cannot do its work leaves a
collection with a reason; it never stops a run.
-/
namespace MonorepoCheck

structure Collection where
  found : List Diagnostic
  /-- why the collection may not be complete -/
  degraded : Option String
  deriving DecidableEq, Repr, Inhabited

namespace ScanPlan

/-- The file that a checker means, as seen from the unit's directory. -/
def reportedFile (unit : BuildUnit) (line : CheckerLine) : Path := unit.path.join ⟨line.file⟩

/-- The ways to the files that lines report, each as it is first spelt. -/
def spellings (unit : BuildUnit) (lines : List CheckerLine) : List (List Path.Step × Path) :=
  lines.foldl (fun known line =>
    let file := reportedFile unit line
    if known.any fun entry => entry.1 == file.steps then known
    else known ++ [(file.steps, file)]) []

/-- The path under which a file is read. A file is read once, as it is first spelt. -/
def readPath (known : List (List Path.Step × Path)) (file : Path) : Path :=
  ((known.find? fun entry => entry.1 == file.steps).map Prod.snd).getD file

/-- The source around a reported line, if snippets are wanted and the file has that line. -/
def snippet? (plan : ScanPlan) (host : Host) (file : Path) (line : Nat) : Option String := do
  if !plan.settings.attachSnippets then none
  else
    let content ← (host.readText file).toOption
    let shown ← Snippet.render? content.toList line plan.settings.snippetContext
    pure (String.ofList shown)

/-- The diagnostic that a line of the checker reports, with its file named from the root. -/
def diagnostic (plan : ScanPlan) (host : Host) (unit : BuildUnit)
    (known : List (List Path.Step × Path)) (line : CheckerLine) : Diagnostic :=
  let file := reportedFile unit line
  { file := Path.relativeTo plan.root file
    line := line.line
    column := line.column
    code := line.code
    message := line.message
    snippet := plan.snippet? host (readPath known file) line.line
    suggestions := if plan.settings.attachHints then some (hintsFor line.code) else none }

/-- What a checker's outcome says about the unit. -/
def collection (plan : ScanPlan) (host : Host) (unit : BuildUnit) (outcome : Outcome) :
    Collection :=
  match outcome with
  | .completed success _ output =>
    let lines := CheckerLine.readAll output.toList
    { found := plan.filter.apply (lines.map (plan.diagnostic host unit (spellings unit lines)))
      degraded :=
        if lines.isEmpty && !success then
          some ("checker " ++ outcome.describe ++ " without parseable diagnostics")
        else none }
  | _ => ⟨[], some ("checker " ++ outcome.describe)⟩

/-- Runs the checker on a unit whose build configuration is there. -/
def collect (plan : ScanPlan) (host : Host) (unit : BuildUnit) : Collection × Host :=
  if host.isFileAt unit.configuration then
    let (outcome, host) := host.run plan.runner (plan.checkerInvocation unit)
    (plan.collection host unit outcome, host)
  else
    (⟨[], some ("build configuration " ++ unit.configuration.text ++ " is missing")⟩, host)

end ScanPlan
end MonorepoCheck
