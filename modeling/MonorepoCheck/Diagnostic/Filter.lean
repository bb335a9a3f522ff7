import MonorepoCheck.Diagnostic.Basic
import MonorepoCheck.Glob.Pattern
import MonorepoCheck.Text.Letter
import MonorepoCheck.Text.Search

/-!
Filters on diagnostics, by code and by file. An empty list restricts nothing. The fingerprint of a
filter tells apart what was found under different filters.
-/
namespace MonorepoCheck

structure Filter where
  codes : List String
  files : List String
  deriving DecidableEq, Repr, Inhabited

namespace Filter

def isEmpty (filter : Filter) : Bool := filter.codes.isEmpty && filter.files.isEmpty

/-- Codes are compared up to the case of ASCII letters. -/
def acceptsCode (filter : Filter) (code : String) : Bool :=
  filter.codes.isEmpty || filter.codes.any fun wanted => Text.sameUpToCase wanted code

/-- A file is wanted when a pattern stands in its name or matches it as a glob. -/
def acceptsFile (filter : Filter) (file : String) : Bool :=
  filter.files.isEmpty || filter.files.any fun pattern =>
    Text.containsText pattern file || Glob.patternMatches pattern file

def accepts (filter : Filter) (d : Diagnostic) : Bool :=
  filter.acceptsCode d.code && filter.acceptsFile d.file

/-- The diagnostics that the filter accepts, in order. -/
def apply (filter : Filter) (found : List Diagnostic) : List Diagnostic :=
  if filter.isEmpty then found else found.filter filter.accepts

def sorted (texts : List String) : List String := texts.mergeSort fun a b => !decide (b < a)

def fingerprint (filter : Filter) : String :=
  "codes=" ++ Text.joinText "," (sorted (filter.codes.map Text.upperAsciiText))
    ++ ";files=" ++ Text.joinText "," (sorted filter.files)

end Filter
end MonorepoCheck
