import MonorepoCheck.Report.Document
import MonorepoCheck.Text.Lines

/-!
A document in Markdown. Snippets stand in fenced blocks, each line of them indented.
-/
namespace MonorepoCheck.Markdown

def count (n : Nat) : String := Text.decimalText n

def headRows (document : Document) : List String :=
  let c := document.circumstances
  let counts := document.report.counts
  ["# Diagnostics Report",
   "",
   "**Workspace:** `" ++ c.workspaceRoot ++ "`",
   "**Generated:** " ++ c.generatedAt,
   "**Duration:** " ++ count c.durationMs ++ "ms",
   "**Remediation:** " ++ c.remedy ++ (if c.dryRun then " (dry run)" else ""),
   "",
   "## Summary",
   "",
   "- **Total:** " ++ count counts.total,
   "- **Fixed:** " ++ count counts.fixed,
   "- **Remaining:** " ++ count counts.remaining,
   "- **Units:** " ++ count c.unitsScanned ++ " scanned, " ++ count c.unitsFromCache
     ++ " from cache",
   "",
   "**" ++ document.status.headline counts.remaining ++ "**",
   ""]

def unitRow (unit : UnitSummary) : String :=
  "| `" ++ unit.unit ++ "` | " ++ count unit.counts.total ++ " | " ++ count unit.counts.fixed
    ++ " | " ++ count unit.counts.remaining ++ " | " ++ (if unit.fromCache then "yes" else "")
    ++ " |"

def unitRows (units : List UnitSummary) : List String :=
  if units.isEmpty then []
  else
    ["## Units", "", "| Unit | Total | Fixed | Remaining | Cached |",
     "|---|---:|---:|---:|:---:|"]
    ++ units.map unitRow ++ [""]

def snippetRows (snippet : String) : List String :=
  ["", "  ```ts"] ++ (Text.textLines snippet).map ("  " ++ ·) ++ ["  ```", ""]

def diagnosticRows (d : Diagnostic) : List String :=
  ["- **" ++ d.code ++ "** (" ++ count d.line ++ ":" ++ count d.column ++ "): " ++ d.message]
  ++ d.snippet.toList.flatMap snippetRows
  ++ (d.suggestions.getD []).map ("  - " ++ ·)

def fileRows (group : String × List Diagnostic) : List String :=
  if group.2.isEmpty then []
  else ["### `" ++ group.1 ++ "`", ""] ++ group.2.flatMap diagnosticRows

def findingRows (findings : Findings) : List String :=
  if findings.isEmpty then []
  else ["## Findings", ""] ++ findings.groups.flatMap fileRows

def noteRows (notes : List String) : List String :=
  if notes.isEmpty then [] else ["## Notes", ""] ++ notes.map ("- " ++ ·)

def render (document : Document) : String :=
  Text.unlines (headRows document ++ unitRows document.report.units
    ++ findingRows document.report.findings ++ noteRows document.report.notes)

end MonorepoCheck.Markdown
