import MonorepoCheck.Json.Fields
import MonorepoCheck.Report.Document

/-!
Reports as JSON, and back. Absent snippets and suggestions and empty lists of notes are left out;
the members of a run's report stand in the document beside its circumstances and status.
-/
namespace MonorepoCheck

def natural (n : Nat) : Json := .integer n

/-- A member that is left out when there is nothing to write. -/
def memberIfSome (key : String) (value : Option Json) : List (String × Json) :=
  match value with
  | none => []
  | some json => [(key, json)]

def noteMembers (notes : List String) : List (String × Json) :=
  if notes.isEmpty then [] else [("notes", .ofTexts notes)]

namespace Diagnostic

def toJson (d : Diagnostic) : Json :=
  .object (
    [("sourceFile", .string d.file), ("line", natural d.line), ("column", natural d.column),
     ("code", .string d.code), ("message", .string d.message)]
    ++ memberIfSome "codeSnippet" (d.snippet.map .string)
    ++ memberIfSome "suggestions" (d.suggestions.map .ofTexts))

def fieldNames : List String :=
  ["sourceFile", "line", "column", "code", "message", "codeSnippet", "suggestions"]

def ofJson? (json : Json) : Option Diagnostic := do
  match ← Json.fields? fieldNames json with
  | [file, line, column, code, message, snippet, suggestions] =>
    pure {
      file := ← Json.required Json.text? file
      line := ← Json.required Json.count? line
      column := ← Json.required Json.count? column
      code := ← Json.required Json.text? code
      message := ← Json.required Json.text? message
      snippet := ← Json.optional Json.text? snippet
      suggestions := ← Json.optional Json.texts? suggestions }
  | _ => none

end Diagnostic

namespace Findings

def toJson (findings : Findings) : Json :=
  .object (findings.groups.map fun group => (group.1, .array (group.2.map Diagnostic.toJson)))

/-- Of a file that is written twice, the last list counts. -/
def ofJson? : Json → Option Findings
  | .object members => do
    let groups ← members.mapM fun member =>
      (Json.listOf? Diagnostic.ofJson? member.2).map fun found => (member.1, found)
    pure (ofGroups groups)
  | _ => none

end Findings

namespace Counts

def members (counts : Counts) : List (String × Json) :=
  [("totalErrors", natural counts.total), ("fixedErrors", natural counts.fixed),
   ("remainingErrors", natural counts.remaining)]

def fieldNames : List String := ["totalErrors", "fixedErrors", "remainingErrors"]

def ofFields? (total fixed remaining : Option Json) : Option Counts := do
  pure {
    total := ← Json.required Json.count? total
    fixed := ← Json.required Json.count? fixed
    remaining := ← Json.required Json.count? remaining }

end Counts

namespace UnitReport

def toJson (report : UnitReport) : Json :=
  .object (
    ("unit", .string report.unit) :: report.counts.members
    ++ [("errorsByFile", report.findings.toJson), ("fromCache", .bool report.fromCache)]
    ++ noteMembers report.notes)

def fieldNames : List String :=
  "unit" :: Counts.fieldNames ++ ["errorsByFile", "fromCache", "notes"]

def ofJson? (json : Json) : Option UnitReport := do
  match ← Json.fields? fieldNames json with
  | [unit, total, fixed, remaining, findings, fromCache, notes] =>
    pure {
      unit := ← Json.required Json.text? unit
      counts := ← Counts.ofFields? total fixed remaining
      findings := ← Json.required Findings.ofJson? findings
      fromCache := ← Json.orElse false Json.bool? fromCache
      notes := ← Json.orElse [] Json.texts? notes }
  | _ => none

end UnitReport

namespace UnitSummary

def toJson (summary : UnitSummary) : Json :=
  .object (
    ("unit", .string summary.unit) :: summary.counts.members
    ++ [("fromCache", .bool summary.fromCache)])

def ofJson? (json : Json) : Option UnitSummary := do
  match ← Json.fields? ("unit" :: Counts.fieldNames ++ ["fromCache"]) json with
  | [unit, total, fixed, remaining, fromCache] =>
    pure {
      unit := ← Json.required Json.text? unit
      counts := ← Counts.ofFields? total fixed remaining
      fromCache := ← Json.required Json.bool? fromCache }
  | _ => none

end UnitSummary

namespace RunReport

def members (run : RunReport) : List (String × Json) :=
  run.counts.members
    ++ [("errorsByFile", run.findings.toJson),
        ("units", .array (run.units.map UnitSummary.toJson))]
    ++ noteMembers run.notes

def toJson (run : RunReport) : Json := .object run.members

def fieldNames : List String := Counts.fieldNames ++ ["errorsByFile", "units", "notes"]

def ofJson? (json : Json) : Option RunReport := do
  match ← Json.fields? fieldNames json with
  | [total, fixed, remaining, findings, units, notes] =>
    pure {
      counts := ← Counts.ofFields? total fixed remaining
      findings := ← Json.required Findings.ofJson? findings
      units := ← Json.required (Json.listOf? UnitSummary.ofJson?) units
      notes := ← Json.orElse [] Json.texts? notes }
  | _ => none

end RunReport

namespace Circumstances

def toJson (c : Circumstances) : Json :=
  .object
    [("runId", .string c.runId), ("generatedAt", .string c.generatedAt),
     ("version", .string c.version), ("workspaceRoot", .string c.workspaceRoot),
     ("durationMs", natural c.durationMs), ("remediationLevel", .string c.remedy),
     ("dryRun", .bool c.dryRun), ("unitsDiscovered", natural c.unitsDiscovered),
     ("unitsScanned", natural c.unitsScanned), ("unitsFromCache", natural c.unitsFromCache),
     ("cancelled", .bool c.cancelled)]

def fieldNames : List String :=
  ["runId", "generatedAt", "version", "workspaceRoot", "durationMs", "remediationLevel", "dryRun",
   "unitsDiscovered", "unitsScanned", "unitsFromCache", "cancelled"]

def ofJson? (json : Json) : Option Circumstances := do
  match ← Json.fields? fieldNames json with
  | [runId, generatedAt, version, root, duration, remedy, dryRun, discovered, scanned, cached,
      cancelled] =>
    pure {
      runId := ← Json.required Json.text? runId
      generatedAt := ← Json.required Json.text? generatedAt
      version := ← Json.required Json.text? version
      workspaceRoot := ← Json.required Json.text? root
      durationMs := ← Json.required (Json.naturalBelow? (Nat.pow 2 128)) duration
      remedy := ← Json.required Json.text? remedy
      dryRun := ← Json.required Json.bool? dryRun
      unitsDiscovered := ← Json.required Json.count? discovered
      unitsScanned := ← Json.required Json.count? scanned
      unitsFromCache := ← Json.required Json.count? cached
      cancelled := ← Json.required Json.bool? cancelled }
  | _ => none

end Circumstances

namespace RunStatus

def toJson (status : RunStatus) : Json := .string status.name

def ofJson? : Json → Option RunStatus := Json.constant? ofName?

end RunStatus

namespace Document

def toJson (document : Document) : Json :=
  .object (
    ("metadata", document.circumstances.toJson) :: ("status", document.status.toJson)
    :: document.report.members)

/-- A document is written as an object only, and every member that is not its own has to be
readable. -/
def ofJson? (json : Json) : Option Document := do
  match json with
  | .object members =>
    let others := members.filter fun member => member.1 != "metadata" && member.1 != "status"
    match ← Json.fields? ["metadata", "status"] json with
    | [circumstances, status] =>
      if Json.readableMembers others then
        pure {
          circumstances := ← Json.required Circumstances.ofJson? circumstances
          status := ← Json.required RunStatus.ofJson? status
          report := ← RunReport.ofJson? json }
      else none
    | _ => none
  | _ => none

end Document
end MonorepoCheck
