import MonorepoCheck.Path.Basic

/-!
Lexical resolution of `.` and `..`, and the name of a path as seen from another. Neither looks at
what stands on disk.
-/
namespace MonorepoCheck.Path

/-- The steps walked so far, after one more. A `..` takes back the step before it; where there is
none to take back, right after the root or at the front, it is kept as a step. -/
def Step.resolve (walked : List Step) : Step → List Step
  | .here => walked
  | .root => [.root]
  | .name spelt => walked ++ [.name spelt]
  | .up =>
    match walked.getLast? with
    | none | some .root => walked ++ [.up]
    | some _ => walked.dropLast

def normalizedSteps (path : Path) : List Step := path.steps.foldl Step.resolve []

/-- Resolves `.` and `..` lexically. -/
def normalize (path : Path) : Path := ofSteps path.normalizedSteps

/-- An absolute path in which nothing is left to resolve. Two of these are one exactly if they take the
same steps, so that it does not matter which of the two is compared. -/
structure Resolved (path : Path) : Prop where
  absolute : path.isAbsolute = true
  normal : path.normalize = path

/-- The steps from the end of `base` to the end of `target`: one `..` for each step of `base` past
the common front, then the rest of `target`. `common` says that the two still agree. A `.` in the
base stands still, and a `..` in it cannot be walked back. -/
def stepsBetween (common : Bool) : (target base : List Step) → Option (List Step)
  | target, [] => some target
  | [], base => some (base.map fun _ => .up)
  | step :: target, other :: base =>
    if common && step = other then stepsBetween true target base
    else if other = .here then (stepsBetween false target base).map (step :: ·)
    else if other = .up then none
    else some (.up :: base.map (fun _ => .up) ++ step :: target)

/-- The steps of `path` as seen from `root`. Of two paths of which only one is absolute, an
absolute one is named in full; where no way leads, the path is named as it is written. -/
def stepsFrom (root path : Path) : List Step :=
  let target := path.normalize
  if target.isAbsolute == root.isAbsolute then
    (stepsBetween true target.steps root.steps).getD path.steps
  else if target.isAbsolute then target.steps
  else path.steps

/-- The name of `path` as seen from `root`, with `/` between steps; `.` is `root` itself. Of paths that
are not text it is `nameOfBytes`. -/
def relativeTo (root path : Path) : String :=
  let name := Text.joinText "/" ((stepsFrom root path).map Step.text)
  if name.isEmpty then "." else name

end MonorepoCheck.Path
