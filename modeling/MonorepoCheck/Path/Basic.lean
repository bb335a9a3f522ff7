import MonorepoCheck.Text.Search

/-!
Paths as they are written, and the steps they name. Repeated separators, and `.` anywhere but at
the front of a relative path, name no step; two paths are the same way when their steps agree.
What a path is written in is text.
-/
namespace MonorepoCheck

structure Path where
  text : String
  deriving DecidableEq, Repr, Inhabited

namespace Path

/-- One step of a path. -/
inductive Step where
  | root
  | here
  | up
  | name (text : String)
  deriving DecidableEq, Repr

def Step.text : Step → String
  | .root => "/"
  | .here => "."
  | .up => ".."
  | .name spelt => spelt

/-- The step that a piece between separators names, if it names one. -/
def Step.ofPiece? (piece : List Char) : Option Step :=
  if piece = [] ∨ piece = ['.'] then none
  else if piece = ['.', '.'] then some .up
  else some (.name (String.ofList piece))

def isAbsolute (path : Path) : Bool := path.text.toList.head? == some '/'

def steps (path : Path) : List Step :=
  let pieces := Text.splitOn '/' path.text.toList
  let named := pieces.filterMap Step.ofPiece?
  if path.isAbsolute then .root :: named
  else if pieces.head? == some ['.'] then .here :: named
  else named

/-- The second path as seen from the first; an absolute one stands alone. -/
def join (base path : Path) : Path :=
  if path.isAbsolute then path
  else if base.text.isEmpty || base.text.toList.getLast? == some '/' then ⟨base.text ++ path.text⟩
  else ⟨base.text ++ "/" ++ path.text⟩

def ofSteps (steps : List Step) : Path :=
  steps.foldl (fun path step => path.join ⟨step.text⟩) ⟨""⟩

/-- All but the last step; the root and the empty path have no parent. -/
def parent? (path : Path) : Option Path :=
  match path.steps.reverse with
  | [] => none
  | .root :: _ => none
  | _ :: rest => some (ofSteps rest.reverse)

/-- The last step, when it is a plain name. -/
def fileName? (path : Path) : Option String :=
  match path.steps.getLast? with
  | some (.name spelt) => some spelt
  | _ => none

/-- A name cut at its last dot; a dot in front belongs to the stem. -/
def cutExtension (name : List Char) : List Char × Option (List Char) :=
  let reversed := name.reverse
  match reversed.dropWhile (· != '.') with
  | [] => (name, none)
  | _ :: stem =>
    if stem.isEmpty then (name, none)
    else (stem.reverse, some (reversed.takeWhile (· != '.')).reverse)

def extension? (path : Path) : Option String := do
  let name ← path.fileName?
  (cutExtension name.toList).2.map String.ofList

/-- Exchanges what follows the last dot of the file name, or adds it. Where dots alone are left of
the name it is the name of no file any more, and nothing is added. -/
def withExtension (path : Path) (extension : String) : Path :=
  match path.fileName? with
  | none => path
  | some name =>
    match (cutExtension name.toList).2 with
    | none => ⟨path.text ++ "." ++ extension⟩
    | some old =>
      let kept : Path := ⟨String.ofList (path.text.toList.take (path.text.length - old.length))⟩
      if kept.fileName?.isNone then kept else ⟨kept.text ++ extension⟩

end Path
end MonorepoCheck
