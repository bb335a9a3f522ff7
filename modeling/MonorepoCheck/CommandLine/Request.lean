import MonorepoCheck.CommandLine.Words
import MonorepoCheck.Remedy.Level
import MonorepoCheck.Report.Format
import MonorepoCheck.Run
import MonorepoCheck.Settings.Load

/-!
What a command line asks for: a scan, a file of settings to start from, or something about the
program.
-/
namespace MonorepoCheck.CommandLine

/-- What the program can be asked about itself. -/
inductive Topic where
  | program
  | scan
  | config
  | help
  deriving DecidableEq, Repr, Inhabited

structure ScanRequest where
  options : RunOptions
  settings : Option Path
  format : ReportFormat
  output : Option Path
  /-- whether units are scanned at the same time, if the line says so -/
  parallel : Option Bool
  noCache : Bool
  maxWorkers : Option Nat
  noSnippets : Bool
  deriving DecidableEq, Repr, Inhabited

inductive Request where
  | scan (request : ScanRequest)
  | writeSettings (output : Path)
  | help (topic : Topic)
  | version
  /-- the line cannot be understood -/
  | misused
  deriving DecidableEq, Repr, Inhabited

/-- Switches that stand at every level. -/
def commonSwitches : List Switch :=
  [⟨"verbose", some 'v', .counted, fun _ => true⟩, ⟨"quiet", some 'q', .once, fun _ => true⟩]

def grammar : Grammar := ⟨commonSwitches, ["scan", "config", "help"], true⟩

def isPath (text : String) : Bool := !text.isEmpty

/-- A count that fits a machine word; a plus sign may stand in front. -/
def count? (text : String) : Option Nat := do
  let digits := match text.toList with
    | '+' :: digits => digits
    | digits => digits
  let n ← Text.readNumeral? digits
  if n < Nat.pow 2 64 then pure n else none

def scanSwitches : List Switch :=
  [⟨"root", some 'r', .value, isPath⟩,
   ⟨"config", some 'c', .value, isPath⟩,
   ⟨"fix", none, .value, fun text => (RemedyLevel.ofSpelling? false text).isSome⟩,
   ⟨"codes", none, .values, fun _ => true⟩,
   ⟨"files", none, .values, fun _ => true⟩,
   ⟨"format", some 'f', .value, fun text => (ReportFormat.ofSpelling? false text).isSome⟩,
   ⟨"output", some 'o', .value, isPath⟩,
   ⟨"parallel", none, .once, fun _ => true⟩,
   ⟨"sequential", none, .once, fun _ => true⟩,
   ⟨"dry-run", none, .once, fun _ => true⟩,
   ⟨"no-cache", none, .once, fun _ => true⟩,
   ⟨"max-workers", none, .value, fun text => (count? text).isSome⟩,
   ⟨"no-snippets", none, .once, fun _ => true⟩,
   ⟨"suggest-ai", none, .once, fun _ => true⟩]

def scanGrammar : Grammar := ⟨scanSwitches ++ commonSwitches, [], false⟩

def configGrammar : Grammar :=
  ⟨⟨"output", some 'o', .value, isPath⟩ :: commonSwitches, [], false⟩

/-- What stops reading, as a request. -/
def ofStop (topic : Topic) : Stop → Request
  | .misused => .misused
  | .help => .help topic
  | .version => .version

/-- A scan; its units cannot be scanned both at the same time and one by one. -/
def scanRequest (level : Level) : Request :=
  if level.has "parallel" && level.has "sequential" then .misused
  else
    .scan {
      options := {
        root := ⟨(level.value? "root").getD "."⟩
        level := ((level.value? "fix").bind (RemedyLevel.ofSpelling? false)).getD .none
        filter := ⟨level.values "codes", level.values "files"⟩
        dryRun := level.has "dry-run"
        advice := level.has "suggest-ai" }
      settings := (level.value? "config").map Path.mk
      format := ((level.value? "format").bind (ReportFormat.ofSpelling? false)).getD .text
      output := (level.value? "output").map Path.mk
      parallel :=
        if level.has "sequential" then some false
        else if level.has "parallel" then some true
        else none
      noCache := level.has "no-cache"
      maxWorkers := (level.value? "max-workers").bind count?
      noSnippets := level.has "no-snippets" }

/-- Help on the subcommand that words name. -/
def helpRequest : List String → Request
  | [] => .help .program
  | ["scan"] => .help .scan
  | ["config"] => .help .config
  | ["help"] => .help .help
  | _ => .misused

/-- The request of a command line, the name of the program aside. -/
def request (words : List String) : Request :=
  match read grammar words with
  | .error stop => ofStop .program stop
  | .ok level =>
    match level.subcommand with
    | some ("scan", rest) =>
      match read scanGrammar rest with
      | .ok level => scanRequest level
      | .error stop => ofStop .scan stop
    | some ("config", rest) =>
      match read configGrammar rest with
      | .ok level => .writeSettings ⟨(level.value? "output").getD Settings.fileName⟩
      | .error stop => ofStop .config stop
    | some (_, rest) => helpRequest rest
    | none => .misused

/-- The settings of a scan, with what the command line says about them. -/
def ScanRequest.adjust (request : ScanRequest) (settings : Settings) : Settings :=
  { settings with
    attachSnippets := settings.attachSnippets && !request.noSnippets
    cache := { settings.cache with reuse := settings.cache.reuse && !request.noCache }
    execution := {
      parallel := request.parallel.getD settings.execution.parallel
      maxWorkers := match request.maxWorkers with
        | some n => some n
        | none => settings.execution.maxWorkers } }

end MonorepoCheck.CommandLine
