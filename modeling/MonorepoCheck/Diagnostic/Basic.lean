import MonorepoCheck.Text.Digit

/-!
Diagnostics: what a checker reports about one place in one file.
-/
namespace MonorepoCheck

/-- One finding. Files are named from the root of the workspace, with `/` between steps; lines and
columns count from one. -/
structure Diagnostic where
  file : String
  line : Nat
  column : Nat
  code : String
  message : String
  snippet : Option String := none
  suggestions : Option (List String) := none
  deriving DecidableEq, Repr, Inhabited

def Diagnostic.location (d : Diagnostic) : String :=
  d.file ++ ":" ++ Text.decimalText d.line ++ ":" ++ Text.decimalText d.column

end MonorepoCheck
