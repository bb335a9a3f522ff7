import MonorepoCheck.Text.Digit
import MonorepoCheck.Text.Lines
import MonorepoCheck.Text.Search

/-!
Snippets: the numbered lines around a reported line, which is marked.
-/
namespace MonorepoCheck.Snippet

/-- A text in at least `width` places, set to the right. -/
def padLeft (width : Nat) (text : List Char) : List Char :=
  List.replicate (width - text.length) ' ' ++ text

/-- The first and the last line shown. -/
def window (count line context : Nat) : Nat × Nat := (max 1 (line - context), min count (line + context))

/-- One line of source with its number; the reported line carries the mark. -/
def row (width line number : Nat) (source : List Char) : List Char :=
  (if number = line then '>' else ' ') :: ' ' :: padLeft width (Text.decimal number)
    ++ " | ".toList ++ source

/-- The rows from `first` on, as many as `sources` has. -/
def rows (width line : Nat) : Nat → List (List Char) → List (List Char)
  | _, [] => []
  | first, source :: more => row width line first source :: rows width line (first + 1) more

/-- The lines from `context` before the reported one to `context` after it, as far as the content
has them. None when the content does not have the reported line. The sum of `line` and `context` is
to fit a machine word, as it does for any file and any settings out of a document: both are less
than 2 ^ 63 then. -/
def render? (content : List Char) (line context : Nat) : Option (List Char) :=
  let sources := Text.lines content
  if line = 0 ∨ sources.length < line then none
  else
    let (first, last) := window sources.length line context
    let width := (Text.decimal last).length
    let shown := (sources.drop (first - 1)).take (last + 1 - first)
    some (Text.join ['\n'] (rows width line first shown))

end MonorepoCheck.Snippet
