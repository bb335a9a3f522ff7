import MonorepoCheck.Report.Document
import MonorepoCheck.Text.Lines

/-!
A document as a web page. Everything that is not part of the page's own markup is escaped, so that
it can neither open nor close a tag.
-/
namespace MonorepoCheck.Html

def escapeChar (c : Char) : List Char :=
  if c = '&' then "&amp;".toList
  else if c = '<' then "&lt;".toList
  else if c = '>' then "&gt;".toList
  else if c = '"' then "&quot;".toList
  else [c]

def escape (text : String) : String := String.ofList (text.toList.flatMap escapeChar)

def styleRows : List String :=
  ["        body \x7b font-family: Arial, sans-serif; margin: 40px; line-height: 1.6; \x7d",
   "        .header \x7b border-bottom: 2px solid #333; padding-bottom: 20px; \x7d",
   "        .section \x7b margin: 30px 0; \x7d",
   "        .metric \x7b display: inline-block; margin: 10px 20px 10px 0; "
      ++ "padding: 10px; background: #f5f5f5; border-radius: 5px; \x7d",
   "        .status-success \x7b color: #2e7d32; font-weight: bold; \x7d",
   "        .status-failure \x7b color: #d32f2f; font-weight: bold; \x7d",
   "        .diagnostic \x7b margin: 15px 0; padding: 15px; "
      ++ "border-left: 4px solid #007acc; background: #f9f9f9; \x7d",
   "        .code \x7b font-weight: bold; color: #2c3e50; \x7d",
   "        pre \x7b background: #272822; color: #f8f8f2; padding: 10px; "
      ++ "border-radius: 5px; overflow-x: auto; \x7d",
   "        table \x7b border-collapse: collapse; width: 100%; margin: 10px 0; \x7d",
   "        th, td \x7b border: 1px solid #ddd; padding: 8px; text-align: left; \x7d",
   "        th \x7b background-color: #f2f2f2; \x7d"]

def count (n : Nat) : String := Text.decimalText n

def statusClass : RunStatus → String
  | .success => "status-success"
  | .diagnosticsRemaining => "status-failure"

/-- The page up to the tables. -/
def headRows (document : Document) : List String :=
  let c := document.circumstances
  let counts := document.report.counts
  let root := escape c.workspaceRoot
  ["<!DOCTYPE html>",
   "<html lang=\"en\">",
   "<head>",
   "    <meta charset=\"UTF-8\">",
   "    <meta name=\"viewport\" content=\"width=device-width, initial-scale=1.0\">",
   "    <title>Diagnostics Report - " ++ root ++ "</title>",
   "    <style>"]
  ++ styleRows
  ++ ["    </style>",
   "</head>",
   "<body>",
   "    <div class=\"header\">",
   "        <h1>Diagnostics Report</h1>",
   "        <p>Workspace: <code>" ++ root ++ "</code> &middot; Generated " ++ escape c.generatedAt
      ++ " &middot; Remediation: " ++ escape c.remedy ++ (if c.dryRun then " (dry run)" else "")
      ++ "</p>",
   "    </div>",
   "    <div class=\"section\">",
   "        <div class=\"metric\">Total: " ++ count counts.total ++ "</div>",
   "        <div class=\"metric\">Fixed: " ++ count counts.fixed ++ "</div>",
   "        <div class=\"metric\">Remaining: " ++ count counts.remaining ++ "</div>",
   "        <div class=\"metric\">Units: " ++ count c.unitsScanned ++ " ("
      ++ count c.unitsFromCache ++ " cached)</div>",
   "        <p class=\"" ++ statusClass document.status ++ "\">"
      ++ escape (document.status.headline counts.remaining) ++ "</p>",
   "    </div>"]

def unitRow (unit : UnitSummary) : String :=
  "            <tr><td><code>" ++ escape unit.unit ++ "</code></td><td>" ++ count unit.counts.total
    ++ "</td><td>" ++ count unit.counts.fixed ++ "</td><td>" ++ count unit.counts.remaining
    ++ "</td><td>" ++ (if unit.fromCache then "yes" else "") ++ "</td></tr>"

def unitRows (units : List UnitSummary) : List String :=
  if units.isEmpty then []
  else
    ["    <div class=\"section\">",
     "        <h2>Units</h2>",
     "        <table>",
     "            <tr><th>Unit</th><th>Total</th><th>Fixed</th><th>Remaining</th>"
       ++ "<th>Cached</th></tr>"]
    ++ units.map unitRow
    ++ ["        </table>", "    </div>"]

def suggestionRows (suggestions : List String) : List String :=
  if suggestions.isEmpty then []
  else
    ["            <ul>"]
    ++ suggestions.map (fun suggestion => "                <li>" ++ escape suggestion ++ "</li>")
    ++ ["            </ul>"]

def diagnosticRows (d : Diagnostic) : List String :=
  ["        <div class=\"diagnostic\">",
   "            <span class=\"code\">" ++ escape d.code ++ "</span> (" ++ count d.line ++ ":"
     ++ count d.column ++ ") " ++ escape d.message]
  ++ d.snippet.toList.map (fun snippet => "            <pre>" ++ escape snippet ++ "</pre>")
  ++ suggestionRows (d.suggestions.getD [])
  ++ ["        </div>"]

def fileRows (group : String × List Diagnostic) : List String :=
  if group.2.isEmpty then []
  else
    ["    <div class=\"section\">",
     "        <h2><code>" ++ escape group.1 ++ "</code></h2>"]
    ++ group.2.flatMap diagnosticRows
    ++ ["    </div>"]

def noteRows (notes : List String) : List String :=
  if notes.isEmpty then []
  else
    ["    <div class=\"section\">", "        <h2>Notes</h2>", "        <ul>"]
    ++ notes.map (fun note => "            <li>" ++ escape note ++ "</li>")
    ++ ["        </ul>", "    </div>"]

def rows (document : Document) : List String :=
  headRows document
    ++ unitRows document.report.units
    ++ document.report.findings.groups.flatMap fileRows
    ++ noteRows document.report.notes
    ++ ["</body>", "</html>"]

/-- The page. -/
def render (document : Document) : String := Text.unlines (rows document)

end MonorepoCheck.Html
