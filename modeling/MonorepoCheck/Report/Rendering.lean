import MonorepoCheck.Failure
import MonorepoCheck.Host
import MonorepoCheck.Json.Printer
import MonorepoCheck.Report.Format
import MonorepoCheck.Report.Html
import MonorepoCheck.Report.Markdown
import MonorepoCheck.Report.Plain
import MonorepoCheck.Report.Stored

/-!
Writing a document out: as a text of some format, and into a file.
-/
namespace MonorepoCheck.Document

def render (document : Document) : ReportFormat → String
  | .text => Plain.render document
  | .json => document.toJson.prettyText
  | .markdown => Markdown.render document
  | .html => Html.render document

/-- Writes the document to a file, and makes the directories that the file is in. -/
def exportTo (document : Document) (host : Host) (format : ReportFormat) (path : Path) :
    Except Failure Host := do
  let host ← match path.parent? with
    | some parent => (host.makeDirectories parent).mapError Failure.files
    | none => pure host
  (host.writeText path (document.render format)).mapError (Failure.reportUnwritten path)

/-- What the document prints on a terminal: it always ends in a line feed. -/
def printed (document : Document) (format : ReportFormat) : String :=
  let text := document.render format
  if text.toList.getLast? == some '\n' then text else text ++ "\n"

end MonorepoCheck.Document
