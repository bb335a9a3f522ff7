import MonorepoCheck.CommandLine.Help
import MonorepoCheck.Report.Rendering
import MonorepoCheck.Settings.Documented

/-!
Doing what a command line asks for.
-/
namespace MonorepoCheck.CommandLine

/-- How a document says when and under which name it was made. -/
structure Stamp where
  runId : String
  generatedAt : String
  durationMs : Nat
  deriving DecidableEq, Repr, Inhabited

/-- What the program leaves behind: its exit status, what it printed, and why it failed if it did. -/
structure Result where
  status : Nat
  printed : String
  failure : Option Failure := none
  host : Host
  deriving Inhabited

/-- The line that tells people of a failure. -/
def failureLine (failure : Failure) : String := "error: " ++ failure.fullMessage

def Result.failed (host : Host) (printed : String) (failure : Failure) : Result :=
  ⟨failure.exitStatus, printed, some failure, host⟩

/-- Scans, and prints the document or writes it to a file. -/
def scan (runner : Runner) (model : Advice.Model σ) (stamp : Stamp) (request : ScanRequest)
    (host : Host) (state : σ) : Result :=
  let loaded := match request.settings with
    | some path => Settings.load host path
    | none => Settings.ofWorkspace host request.options.root
  match loaded with
  | .error failure => .failed host "" failure
  | .ok settings =>
    match Run.execute (request.adjust settings) request.options runner model host state with
    | .error failure => .failed host "" failure
    | .ok (outcome, host, _) =>
      let document := outcome.document request.options stamp.runId stamp.generatedAt version
        stamp.durationMs
      match request.output with
      | none => ⟨outcome.exitStatus, document.printed request.format, none, host⟩
      | some path =>
        match document.exportTo host request.format path with
        | .ok host => ⟨outcome.exitStatus, "", none, host⟩
        | .error failure => .failed host "" failure

/-- Writes a file of settings to start from. -/
def writeSettings (host : Host) (path : Path) : Result :=
  let start := "📝 Generating configuration file: " ++ path.text ++ "\n"
  match host.writeText path Settings.documented with
  | .error cause => .failed host start (.files cause)
  | .ok host =>
    ⟨0, start ++ Text.unlines
      ["✅ Configuration file created successfully!",
       "💡 Edit the file to customize checker, remediation and cache settings."], none, host⟩

/-- Does what the words ask for. A line that cannot be understood ends with status 2. -/
def execute (runner : Runner) (model : Advice.Model σ) (stamp : Stamp) (words : List String)
    (host : Host) (state : σ) : Result :=
  match request words with
  | .misused => ⟨2, "", none, host⟩
  | .version => ⟨0, versionText, none, host⟩
  | .help topic => ⟨0, helpText topic, none, host⟩
  | .writeSettings path => writeSettings host path
  | .scan request => scan runner model stamp request host state

end MonorepoCheck.CommandLine
