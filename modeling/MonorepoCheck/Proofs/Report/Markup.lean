import MonorepoCheck.Proofs.Report.Escaping
import MonorepoCheck.Proofs.Text.Numerals
import Mathlib.Data.List.Forall2

/-!
The tags of a page. They are told by the outline of the document alone: how the run ended, how many
units and notes there are, and for each diagnostic whether it has a snippet and how many suggestions.
No text and no number of the document can add a tag or take one away.
-/
namespace MonorepoCheck.Html

/-- The tags of a text, each from its `<` to the next `>`. The first argument is what is read of a tag
that the text starts within. -/
def tagsFrom : Option (List Char) → List Char → List String
  | _, [] => []
  | none, c :: rest => if c = '<' then tagsFrom (some ['<']) rest else tagsFrom none rest
  | some tag, c :: rest =>
    if c = '>' then String.ofList (tag ++ ['>']) :: tagsFrom none rest
    else tagsFrom (some (tag ++ [c])) rest

def tags (page : String) : List String := tagsFrom none page.toList

/-- Whether a text ends outside of tags. -/
def closes : Bool → List Char → Bool
  | inside, [] => !inside
  | false, c :: rest => closes (c == '<') rest
  | true, c :: rest => closes (c != '>') rest

theorem tagsFrom_append {tag : Option (List Char)} {text : List Char}
    (closed : closes tag.isSome text = true) (rest : List Char) :
    tagsFrom tag (text ++ rest) = tagsFrom tag text ++ tagsFrom none rest := by
  induction text generalizing tag with
  | nil =>
      cases tag with
      | none => rfl
      | some tag => exact absurd closed Bool.false_ne_true
  | cons c text ih =>
      cases tag with
      | none =>
          by_cases opening : c = '<'
          · subst opening
            exact ih closed
          · have still : closes (c == '<') text = true := closed
            rw [beq_eq_false_iff_ne.mpr opening] at still
            rw [List.cons_append, tagsFrom, tagsFrom, if_neg opening, if_neg opening]
            exact ih still
      | some tag =>
          by_cases closing : c = '>'
          · subst closing
            exact congrArg (_ :: ·) (ih closed)
          · have still : closes (c != '>') text = true := closed
            rw [bne_iff_ne.mpr closing] at still
            rw [List.cons_append, tagsFrom, tagsFrom, if_neg closing, if_neg closing]
            exact ih still

/-- A text that has these tags wherever it stands outside of tags, and ends outside of them. -/
def Shows (text : String) (found : List String) : Prop :=
  ∀ rest, tagsFrom none (text.toList ++ rest) = found ++ tagsFrom none rest

namespace Shows

variable {text more : String} {found others : List String}

theorem tags_eq (shows' : Shows text found) : tags text = found := by
  have whole := shows' []
  rwa [List.append_nil, tagsFrom, List.append_nil] at whole

theorem congr (shows' : Shows text found) (same : found = others) : Shows text others :=
  same ▸ shows'

/-- What the page itself is made of. -/
theorem markup {chars : List Char} (closed : closes false chars = true)
    (read : tagsFrom none chars = found) : Shows (String.ofList chars) found := by
  intro rest
  have outside : closes (none : Option (List Char)).isSome chars = true := closed
  rw [String.toList_ofList, ← read]
  exact tagsFrom_append outside rest

theorem plain (none' : '<' ∉ text.toList) : Shows text [] := by
  intro rest
  generalize text.toList = chars at none'
  induction chars with
  | nil => rfl
  | cons c chars ih =>
      obtain ⟨other, later⟩ := not_or.mp (fun here => none' (List.mem_cons.mpr here))
      rw [List.cons_append, tagsFrom, if_neg (Ne.symm other)]
      exact ih later

theorem append (first : Shows text found) (second : Shows more others) :
    Shows (text ++ more) (found ++ others) := by
  intro rest
  rw [String.toList_append, List.append_assoc, first, second, List.append_assoc]

theorem escaped (text : String) : Shows (escape text) [] := plain (escape_opens_none text)

theorem counted (n : Nat) : Shows (count n) [] := by
  apply plain
  intro opens
  rw [count, Text.decimalText, String.toList_ofList] at opens
  exact absurd (Text.decimal_digits opens) (by decide)

/-- A text between two pieces of the page. -/
theorem around {before after : List Char} (inner : Shows text [])
    (opened : closes false before = true) (closed : closes false after = true)
    (read : tagsFrom none before ++ tagsFrom none after = found) :
    Shows (String.ofList before ++ text ++ String.ofList after) found := by
  have shown := ((markup opened rfl).append inner).append (markup closed rfl)
  rw [List.append_nil] at shown
  exact shown.congr read

/-- Text that goes on with more of the page. -/
theorem upTo {after : List Char} (before : Shows text found) (inner : Shows more [])
    (closed : closes false after = true) :
    Shows (text ++ more ++ String.ofList after) (found ++ tagsFrom none after) := by
  have shown := (before.append inner).append (markup closed rfl)
  rwa [List.append_nil] at shown

/-- A piece of the page with an attribute's value in it, which is the page's own. -/
theorem withValue {before value after : List Char} (closed : closes false (before ++ value ++ after))
    (read : tagsFrom none (before ++ value ++ after) = found) :
    Shows (String.ofList before ++ String.ofList value ++ String.ofList after) found := by
  rw [← String.ofList_append, ← String.ofList_append]
  exact markup closed read

end Shows

/-- Rows that have these tags together. -/
def RowsShow (rows : List String) (found : List String) : Prop := Shows (Text.unlines rows) found

namespace RowsShow

variable {row : String} {rows more : List String} {found others : List String}

theorem nil : RowsShow [] [] := fun _ => rfl

theorem cons (first : Shows row found) (later : RowsShow rows others) :
    RowsShow (row :: rows) (found ++ others) := by
  have line : Shows (row ++ "\n") (found ++ []) := first.append (.markup rfl rfl)
  rw [List.append_nil] at line
  rw [RowsShow, Text.unlines, List.map_cons, String.join_cons]
  exact line.append later

theorem append (first : RowsShow rows found) (second : RowsShow more others) :
    RowsShow (rows ++ more) (found ++ others) := by
  rw [RowsShow, Text.unlines, List.map_append, String.join_append]
  exact Shows.append first second

variable {α : Type}

theorem flatMap {items : List α} {rowsOf : α → List String} {tagsOf : α → List String}
    (each : ∀ item, RowsShow (rowsOf item) (tagsOf item)) :
    RowsShow (items.flatMap rowsOf) (items.flatMap tagsOf) := by
  induction items with
  | nil => exact nil
  | cons item items ih => exact (each item).append ih

theorem map {items : List α} {rowOf : α → String} (each : ∀ item, Shows (rowOf item) found) :
    RowsShow (items.map rowOf) (List.replicate items.length found).flatten := by
  induction items with
  | nil => exact nil
  | cons item items ih => exact cons (each item) ih

end RowsShow

def statusTag : RunStatus → String
  | .success => "<p class=\"status-success\">"
  | .diagnosticsRemaining => "<p class=\"status-failure\">"

def headTags (status : RunStatus) : List String :=
  ["<!DOCTYPE html>", "<html lang=\"en\">", "<head>", "<meta charset=\"UTF-8\">",
   "<meta name=\"viewport\" content=\"width=device-width, initial-scale=1.0\">",
   "<title>", "</title>", "<style>", "</style>", "</head>", "<body>",
   "<div class=\"header\">", "<h1>", "</h1>", "<p>", "<code>", "</code>", "</p>", "</div>",
   "<div class=\"section\">",
   "<div class=\"metric\">", "</div>", "<div class=\"metric\">", "</div>",
   "<div class=\"metric\">", "</div>", "<div class=\"metric\">", "</div>",
   statusTag status, "</p>", "</div>"]

def unitTags : List String :=
  ["<tr>", "<td>", "<code>", "</code>", "</td>", "<td>", "</td>", "<td>", "</td>", "<td>", "</td>",
   "<td>", "</td>", "</tr>"]

def unitsTags (units : Nat) : List String :=
  if units = 0 then []
  else
    ["<div class=\"section\">", "<h2>", "</h2>", "<table>", "<tr>", "<th>", "</th>", "<th>", "</th>",
     "<th>", "</th>", "<th>", "</th>", "<th>", "</th>", "</tr>"]
    ++ (List.replicate units unitTags).flatten ++ ["</table>", "</div>"]

def itemTags (items : Nat) : List String := (List.replicate items ["<li>", "</li>"]).flatten

def notesTags (notes : Nat) : List String :=
  if notes = 0 then []
  else ["<div class=\"section\">", "<h2>", "</h2>", "<ul>"] ++ itemTags notes ++ ["</ul>", "</div>"]

/-- Whether a diagnostic has a snippet, and how many suggestions it has. -/
structure Record where
  snippet : Bool
  suggestions : Nat
  deriving DecidableEq, Repr

def Record.tags (record : Record) : List String :=
  ["<div class=\"diagnostic\">", "<span class=\"code\">", "</span>"]
  ++ (if record.snippet then ["<pre>", "</pre>"] else [])
  ++ (if record.suggestions = 0 then [] else ["<ul>"] ++ itemTags record.suggestions ++ ["</ul>"])
  ++ ["</div>"]

def fileTags (records : List Record) : List String :=
  ["<div class=\"section\">", "<h2>", "<code>", "</code>", "</h2>"] ++ records.flatMap Record.tags
  ++ ["</div>"]

/-- What the tags of a page are told by. A dry run and the use of the cache leave words on the page,
and no tags. -/
structure Outline where
  status : RunStatus
  units : Nat
  /-- The files that have diagnostics. -/
  files : List (List Record)
  notes : Nat
  deriving DecidableEq, Repr

def Outline.tags (outline : Outline) : List String :=
  headTags outline.status ++ unitsTags outline.units ++ outline.files.flatMap fileTags
  ++ notesTags outline.notes ++ ["</body>", "</html>"]

def record (d : Diagnostic) : Record := ⟨d.snippet.isSome, (d.suggestions.getD []).length⟩

def outline (document : Document) : Outline where
  status := document.status
  units := document.report.units.length
  files := (document.report.findings.groups.map fun group => group.2.map record).filter
    fun records => !records.isEmpty
  notes := document.report.notes.length

theorem styleRows_show : RowsShow styleRows [] := by
  have rows : RowsShow styleRows _ :=
    .cons (.markup rfl rfl) <| .cons (.markup rfl rfl) <| .cons (.markup rfl rfl) <|
    .cons (.append (.markup rfl rfl) (.markup rfl rfl)) <|
    .cons (.markup rfl rfl) <| .cons (.markup rfl rfl) <|
    .cons (.append (.markup rfl rfl) (.markup rfl rfl)) <|
    .cons (.markup rfl rfl) <|
    .cons (.append (.markup rfl rfl) (.markup rfl rfl)) <|
    .cons (.markup rfl rfl) <| .cons (.markup rfl rfl) <| .cons (.markup rfl rfl) .nil
  exact rows.congr rfl

theorem dryRun_shows (dryRun : Bool) : Shows (if dryRun then " (dry run)" else "") [] := by
  cases dryRun with
  | false => exact .markup rfl rfl
  | true => exact .markup rfl rfl

theorem statusRow_shows (status : RunStatus) (headline : String) :
    Shows ("        <p class=\"" ++ statusClass status ++ "\">" ++ escape headline ++ "</p>")
      [statusTag status, "</p>"] := by
  cases status with
  | success => exact .congr (.upTo (.withValue rfl rfl) (.escaped headline) rfl) rfl
  | diagnosticsRemaining => exact .congr (.upTo (.withValue rfl rfl) (.escaped headline) rfl) rfl

theorem headRows_show (document : Document) :
    RowsShow (headRows document) (headTags document.status) := by
  let c := document.circumstances
  let counts := document.report.counts
  have root := Shows.escaped c.workspaceRoot
  have workspaceRow : Shows ("        <p>Workspace: <code>" ++ escape c.workspaceRoot
      ++ "</code> &middot; Generated " ++ escape c.generatedAt ++ " &middot; Remediation: "
      ++ escape c.remedy ++ (if c.dryRun then " (dry run)" else "") ++ "</p>") _ :=
    .upTo (.append (.upTo (.upTo (.markup rfl rfl) root rfl) (.escaped c.generatedAt) rfl)
      (.escaped c.remedy)) (dryRun_shows c.dryRun) rfl
  have unitsRow : Shows ("        <div class=\"metric\">Units: " ++ count c.unitsScanned ++ " ("
      ++ count c.unitsFromCache ++ " cached)</div>") _ :=
    .upTo (.upTo (.markup rfl rfl) (.counted c.unitsScanned) rfl) (.counted c.unitsFromCache) rfl
  have rows : RowsShow (headRows document) _ :=
    .append (.append (.cons (.markup rfl rfl) <| .cons (.markup rfl rfl) <|
        .cons (.markup rfl rfl) <| .cons (.markup rfl rfl) <| .cons (.markup rfl rfl) <|
        .cons (.around root rfl rfl rfl) <| .cons (.markup rfl rfl) .nil)
      styleRows_show)
      (.cons (.markup rfl rfl) <| .cons (.markup rfl rfl) <| .cons (.markup rfl rfl) <|
        .cons (.markup rfl rfl) <| .cons (.markup rfl rfl) <| .cons workspaceRow <|
        .cons (.markup rfl rfl) <| .cons (.markup rfl rfl) <|
        .cons (.around (.counted counts.total) rfl rfl rfl) <|
        .cons (.around (.counted counts.fixed) rfl rfl rfl) <|
        .cons (.around (.counted counts.remaining) rfl rfl rfl) <| .cons unitsRow <|
        .cons (statusRow_shows document.status (document.status.headline counts.remaining)) <|
        .cons (.markup rfl rfl) .nil)
  exact rows.congr rfl

theorem unitRow_shows (unit : UnitSummary) : Shows (unitRow unit) unitTags := by
  have cached : Shows (if unit.fromCache then "yes" else "") [] := by
    cases unit.fromCache with
    | false => exact .markup rfl rfl
    | true => exact .markup rfl rfl
  have row : Shows (unitRow unit) _ :=
    .upTo (.upTo (.upTo (.upTo (.upTo (.markup rfl rfl) (.escaped unit.unit) rfl)
      (.counted unit.counts.total) rfl) (.counted unit.counts.fixed) rfl)
      (.counted unit.counts.remaining) rfl) cached rfl
  exact row.congr rfl

theorem unitRows_show (units : List UnitSummary) :
    RowsShow (unitRows units) (unitsTags units.length) := by
  cases units with
  | nil => exact .nil
  | cons unit units =>
      have rows : RowsShow (unitRows (unit :: units)) _ :=
        .append (.append (.cons (.markup rfl rfl) <| .cons (.markup rfl rfl) <|
            .cons (.markup rfl rfl) <| .cons (.append (.markup rfl rfl) (.markup rfl rfl)) .nil)
          (.map unitRow_shows))
          (.cons (.markup rfl rfl) <| .cons (.markup rfl rfl) .nil)
      exact rows.congr rfl

theorem suggestionRows_show (suggestions : List String) :
    RowsShow (suggestionRows suggestions)
      (if suggestions.length = 0 then [] else ["<ul>"] ++ itemTags suggestions.length ++ ["</ul>"]) := by
  cases suggestions with
  | nil => exact .nil
  | cons suggestion suggestions =>
      have rows : RowsShow (suggestionRows (suggestion :: suggestions)) _ :=
        .append (.append (.cons (.markup rfl rfl) .nil)
          (.map fun suggestion => .around (.escaped suggestion) rfl rfl rfl))
          (.cons (.markup rfl rfl) .nil)
      exact rows.congr rfl

theorem noteRows_show (notes : List String) :
    RowsShow (noteRows notes) (notesTags notes.length) := by
  cases notes with
  | nil => exact .nil
  | cons note notes =>
      have rows : RowsShow (noteRows (note :: notes)) _ :=
        .append (.append (.cons (.markup rfl rfl) <| .cons (.markup rfl rfl) <|
            .cons (.markup rfl rfl) .nil)
          (.map fun note => .around (.escaped note) rfl rfl rfl))
          (.cons (.markup rfl rfl) <| .cons (.markup rfl rfl) .nil)
      exact rows.congr rfl

theorem snippetRows_show (snippet : Option String) :
    RowsShow (snippet.toList.map fun snippet => "            <pre>" ++ escape snippet ++ "</pre>")
      (if snippet.isSome then ["<pre>", "</pre>"] else []) := by
  cases snippet with
  | none => exact .nil
  | some snippet =>
      have row : RowsShow ["            <pre>" ++ escape snippet ++ "</pre>"] _ :=
        .cons (.around (.escaped snippet) rfl rfl rfl) .nil
      exact row.congr rfl

theorem diagnosticRows_show (d : Diagnostic) : RowsShow (diagnosticRows d) (record d).tags := by
  have rows : RowsShow (diagnosticRows d) _ :=
    .append (.append (.append (.cons (.markup rfl rfl) <| .cons
        (.append (.upTo (.upTo (.upTo (.markup rfl rfl) (.escaped d.code) rfl) (.counted d.line) rfl)
          (.counted d.column) rfl) (.escaped d.message)) .nil)
      (snippetRows_show d.snippet))
      (suggestionRows_show (d.suggestions.getD [])))
      (.cons (.markup rfl rfl) .nil)
  exact rows.congr rfl

theorem fileRows_show (group : String × List Diagnostic) :
    RowsShow (fileRows group) (if group.2.isEmpty then [] else fileTags (group.2.map record)) := by
  obtain ⟨file, found⟩ := group
  cases found with
  | nil => exact .nil
  | cons d found =>
      have rows : RowsShow (fileRows (file, d :: found)) _ :=
        .append (.append (.cons (.markup rfl rfl) <| .cons (.around (.escaped file) rfl rfl rfl) .nil)
          (.flatMap diagnosticRows_show))
          (.cons (.markup rfl rfl) .nil)
      have inner : (d :: found).flatMap (fun d => (record d).tags)
          = ((d :: found).map record).flatMap Record.tags := by rw [List.flatMap_map]
      rw [inner] at rows
      exact rows.congr rfl

theorem groups_show (groups : List (String × List Diagnostic)) :
    RowsShow (groups.flatMap fileRows)
      (((groups.map fun group => group.2.map record).filter fun records => !records.isEmpty).flatMap
        fileTags) := by
  induction groups with
  | nil => exact .nil
  | cons group groups ih =>
      have rows := (fileRows_show group).append ih
      rw [← List.flatMap_cons] at rows
      refine rows.congr ?_
      by_cases none' : group.2 = []
      · simp [none']
      · simp [none']

/-- The tags of every page. -/
theorem tags_render (document : Document) : tags (render document) = (outline document).tags := by
  have tables := (headRows_show document).append (unitRows_show document.report.units)
  have body := (tables.append (groups_show document.report.findings.groups)).append
    (noteRows_show document.report.notes)
  have page : RowsShow (rows document) _ :=
    .append body (.cons (.markup rfl rfl) <| .cons (.markup rfl rfl) .nil)
  exact (Shows.congr page rfl).tags_eq

/-- Whatever its texts and numbers are, a document leaves the tags of its outline. Escaping is the
four replacements in turn, and undoing them in the other order gives the text back. -/
theorem markup_unaffected :
    (∀ left right : Document, outline left = outline right →
      tags (render left) = tags (render right)) ∧
    ∀ text : String, escape text = escapeInTurn text ∧ unescape (escape text) = text := by
  constructor
  · intro left right same
    rw [tags_render, tags_render, same]
  · intro text
    exact ⟨escape_eq_inTurn text, unescape_escape text⟩

/-- A document with one diagnostic, one unit and one note, all spelt with the same word. -/
def sample (word : String) (line : Nat) : Document where
  circumstances := ⟨word, word, word, word, line, word, false, 1, 1, 0, false⟩
  status := .diagnosticsRemaining
  report :=
    { counts := ⟨1, 0, 1⟩
      findings := .ofList [⟨word, line, 1, word, word, some word, some [word, word]⟩]
      units := [⟨word, ⟨1, 0, 1⟩, false⟩]
      notes := [word] }

theorem markup_unaffected_script :
    outline (sample "app" 1) = outline (sample "</code><script>alert(\"&lt;\")</script>" 404) ∧
    tags (render (sample "app" 1))
      = tags (render (sample "</code><script>alert(\"&lt;\")</script>" 404)) ∧
    unescape (escape "</code><script>alert(\"&lt;\")</script>")
      = "</code><script>alert(\"&lt;\")</script>" :=
  ⟨rfl, markup_unaffected.1 _ _ rfl, (markup_unaffected.2 _).2⟩

end MonorepoCheck.Html
