import MonorepoCheck.Report.Document
import MonorepoCheck.Text.Lines

/-!
A document as plain text for a terminal.
-/
namespace MonorepoCheck.Plain

def count (n : Nat) : String := Text.decimalText n

def headRows (document : Document) : List String :=
  let c := document.circumstances
  let counts := document.report.counts
  ["Diagnostics report for " ++ c.workspaceRoot,
   "Units: " ++ count c.unitsScanned ++ " scanned (" ++ count c.unitsFromCache
     ++ " from cache)  Total: " ++ count counts.total ++ "  Fixed: " ++ count counts.fixed
     ++ "  Remaining: " ++ count counts.remaining]
  ++ (if c.dryRun then ["Dry run: no fixes were applied"] else [])
  ++ [""]

def diagnosticRows (d : Diagnostic) : List String :=
  ["  " ++ count d.line ++ ":" ++ count d.column ++ "  " ++ d.code ++ "  " ++ d.message]
  ++ (d.snippet.toList.flatMap Text.textLines).map ("      " ++ ·)
  ++ (d.suggestions.getD []).map ("      - " ++ ·)

def fileRows (group : String × List Diagnostic) : List String :=
  if group.2.isEmpty then [] else [group.1] ++ group.2.flatMap diagnosticRows ++ [""]

def noteRows (notes : List String) : List String :=
  if notes.isEmpty then [] else ["Notes:"] ++ notes.map ("  - " ++ ·) ++ [""]

def render (document : Document) : String :=
  Text.unlines (headRows document ++ document.report.findings.groups.flatMap fileRows
    ++ noteRows document.report.notes
    ++ [document.status.headline document.report.counts.remaining])

end MonorepoCheck.Plain
