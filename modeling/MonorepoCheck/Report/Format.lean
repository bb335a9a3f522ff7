import MonorepoCheck.Text.Letter

/-!
The formats that a document can be written in.
-/
namespace MonorepoCheck

inductive ReportFormat where
  | text
  | json
  | markdown
  | html
  deriving DecidableEq, Repr, Inhabited

namespace ReportFormat

def name : ReportFormat → String
  | text => "text"
  | json => "json"
  | markdown => "markdown"
  | html => "html"

/-- What the command line calls a format, aliases included. -/
def spellings : List (String × ReportFormat) :=
  [("text", text), ("json", json), ("structured", json), ("markdown", markdown),
   ("document", markdown), ("html", html)]

def ofSpelling? (ignoreCase : Bool) (text : String) : Option ReportFormat :=
  (spellings.find? fun entry =>
    if ignoreCase then Text.sameUpToCase entry.1 text else entry.1 == text).map Prod.snd

/-- The format that a stored name stands for. -/
def ofName? (text : String) : Option ReportFormat :=
  [.text, json, markdown, html].find? fun format => format.name == text

end ReportFormat
end MonorepoCheck
